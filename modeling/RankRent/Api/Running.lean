import RankRent.Api.Active

/-!
# Running reviews and their scans

The pipeline moves the review of an opportunity with every end of its scan.
Recovery, and the worker that meets a cancelled scan in the queue, end scans
outside the pipeline and leave the review.
-/

namespace RankRent.Api

/-- `testing_running` or `full_running`. -/
def runningState : OpportunityState → Bool
  | .testingRunning | .fullRunning => true
  | _ => false

/-- Whoever is in a running state has an active scan. -/
def RunningScanned (s : State) : Prop :=
  ∀ o review, s.review o = some review → runningState review = true → s.busy o = true

/-- Recovery cancels or quarantines the scan. -/
def gaveUp (settings : Settings) (staleAfter : ℚ) (now : DateTime) (scan : ScanRun) : Bool :=
  Worker.staleScan now (now - staleAfter) scan &&
    (scan.cancelRequested || decide (scan.attemptLimit settings ≤ scan.retryCount + 1))

/-- The opportunity of the scan is in no running state. -/
def NotRunning (s : State) (scan : ScanRun) : Prop :=
  ∀ o ∈ scan.opportunityId, ∀ review ∈ s.review o, runningState review = false

/-- Scans that end outside the pipeline have not started, and people move an
opportunity to a running state only where it has an active scan. -/
def EndsUnstarted (settings : Settings) (s : State) : Op → Prop
  | .worker (.cancelQueued i _) => ∀ scan ∈ s.worker.scans[i]?, scan.cancelRequested = true →
      NotRunning s scan
  | .worker (.recover staleAfter now _) => ∀ scan ∈ s.worker.scans,
      gaveUp settings staleAfter now scan = true → NotRunning s scan
  | .transition o target .. => runningState target = true → s.busy o = true
  | _ => True

section Busy
variable {s t : State} {o : Nat}

theorem busy_iff : s.busy o = true ↔ ∃ (i : Nat) (scan : ScanRun),
    s.worker.scans[i]? = some scan ∧ activeFor scan o = true := by
  simp only [State.busy, List.any_eq_true]
  constructor
  · rintro ⟨scan, member, holds⟩
    obtain ⟨i, there⟩ := List.mem_iff_getElem?.mp member
    exact ⟨i, scan, there, holds⟩
  · rintro ⟨i, scan, there, holds⟩
    exact ⟨scan, List.mem_of_getElem? there, holds⟩

example : (State.initial 1).busy 0 = false := by decide +kernel

/-- A row that stays active for the opportunity keeps it busy. -/
theorem RowStep.busy {i : Nat} {job : Job} {old new : ScanRun} {review : Option OpportunityState}
    (move : RowStep s t i job old new review) (busy : s.busy o = true)
    (stays : activeFor old o = true → activeFor new o = true) : t.busy o = true := by
  obtain ⟨j, scan, there, holds⟩ := busy_iff.mp busy
  refine busy_iff.mpr ?_
  rw [move.scans]
  by_cases same : i = j
  · subst same
    rw [move.found] at there
    cases there
    exact ⟨i, new, List.getElem?_set_self (List.getElem?_eq_some_iff.mp move.found).1, stays holds⟩
  · exact ⟨j, scan, by rw [List.getElem?_set_ne same]; exact there, holds⟩

/-- The review of an opportunity after a row moved. -/
theorem RowStep.review {i : Nat} {job : Job} {old new : ScanRun} {review : Option OpportunityState}
    (move : RowStep s t i job old new review) {state : OpportunityState}
    (after : t.review o = some state) :
    s.review o = some state ∧ (review = none ∨ o ≠ job.opportunity) ∨
      o = job.opportunity ∧ review = some state := by
  unfold State.review at after ⊢
  rw [move.reviews] at after
  cases review with
  | none => exact Or.inl ⟨after, Or.inl rfl⟩
  | some target =>
    obtain ⟨rfl, rfl⟩ | ⟨other, stays⟩ := Table.getElem?_set_cases after
    · exact Or.inr ⟨rfl, rfl⟩
    · exact Or.inl ⟨stays, Or.inr (Ne.symm other)⟩

theorem completionTarget_not_running {target : OpportunityState} (legal : completionTarget target) :
    runningState target = false := by
  rcases legal with rfl | rfl | rfl <;> rfl

/-- One row moves: if its opportunity is in a running state after, the row is
active, or nothing about it changed. -/
theorem RowStep.scanned {i : Nat} {job : Job} {old new : ScanRun} {review : Option OpportunityState}
    (move : RowStep s t i job old new review) (scanned : RunningScanned s)
    (mine : ∀ state, t.review job.opportunity = some state → runningState state = true →
      active new = true ∨ active old = false ∧ s.review job.opportunity = some state) :
    RunningScanned t := by
  intro o state after running
  by_cases same : o = job.opportunity
  · subst same
    rcases mine state after running with live | ⟨idle, before⟩
    · refine busy_iff.mpr ⟨i, new, ?_, by simp [activeFor, move.stays, live]⟩
      rw [move.scans, List.getElem?_set_self (List.getElem?_eq_some_iff.mp move.found).1]
    · refine move.busy (scanned _ state before running) fun holds => ?_
      simp [activeFor, idle] at holds
  · rcases move.review after with ⟨before, -⟩ | ⟨other, -⟩
    · refine move.busy (scanned o state before running) fun holds => ?_
      rw [activeFor_of_other move.mine (Ne.symm same)] at holds
      cases holds
    · exact absurd other same

/-- The pipeline leaves no running review without a scan. -/
theorem RowEvent.scanned {op : Op} {i : Nat} {job : Job} {old new : ScanRun}
    {review : Option OpportunityState} (move : RowStep s t i job old new review)
    (event : RowEvent job.startTarget (s.review job.opportunity = none) (Revives s i op)
      (Completes s i op) old new review) (scanned : RunningScanned s) : RunningScanned t := by
  refine move.scanned scanned fun state after running => ?_
  have reviewed := move.review after
  -- The states a pipeline leaves behind at its end are not running ones.
  have finished {target : OpportunityState} (moved : review = some target)
      (legal : completionTarget target) : False := by
    subst moved
    rcases reviewed with ⟨-, none | other⟩ | ⟨-, same⟩
    · cases none
    · exact other rfl
    · obtain rfl := Option.some.inj same
      rw [completionTarget_not_running legal] at running
      cases running
  cases event with
  | idle status =>
    have before := (reviewed.resolve_right fun moved => by cases moved.2).1
    cases live : active new with
    | true => exact Or.inl rfl
    | false =>
      refine Or.inr ⟨?_, before⟩
      unfold active at live ⊢
      rwa [← status]
  | requeued _ failed _ =>
    have before := (reviewed.resolve_right fun moved => by cases moved.2).1
    exact Or.inr ⟨by simp [active, failed], before⟩
  | unreviewed gone _ =>
    have before := (reviewed.resolve_right fun moved => by cases moved.2).1
    rw [gone] at before
    cases before
  | ended _ => exact (finished rfl (Or.inl rfl)).elim
  | started _ status => exact Or.inl (by simp [active, status])
  | completed legal _ _ => exact (finished rfl legal).elim

/-- A scan that recovery does not give up is active after it. -/
theorem recovered_kept {settings : Settings} {staleAfter : ℚ} {now : DateTime} (jitter : ℚ)
    {scan : ScanRun} (kept : gaveUp settings staleAfter now scan = false)
    (holds : activeFor scan o = true) :
    activeFor (if Worker.staleScan now (now - staleAfter) scan then
      Worker.recoveredScan settings now jitter scan else scan) o = true := by
  split
  · rename_i stale
    simp only [gaveUp, stale, Bool.true_and, Bool.or_eq_false_iff, decide_eq_false_iff_not] at kept
    simp only [activeFor, recoveredScan_opportunity, Bool.and_eq_true] at holds ⊢
    refine ⟨holds.1, ?_⟩
    simp [Worker.recoveredScan, kept.1, ScanRun.retryOrQuarantine, kept.2, active,
      ScanRun.clearLease]
  · exact holds

/-- A request leaves no running review without a scan. -/
theorem Request.scanned {rows : List (ScanRun × Job)} {touched : List Nat}
    {target : OpportunityState} (request : Request s t rows touched target)
    (scanned : RunningScanned s)
    (moved : ∀ o ∈ touched, runningState target = true →
      s.busy o = true ∨ ∃ entry ∈ rows, activeFor entry.1 o = true) : RunningScanned t := by
  intro o state after running
  have grows (busy : s.busy o = true) : t.busy o = true := by
    simp only [State.busy, request.scans, List.any_append, Bool.or_eq_true]
    exact Or.inl busy
  by_cases member : o ∈ touched
  · rw [request.moved o member] at after
    cases after
    rcases moved o member running with busy | ⟨entry, added, holds⟩
    · exact grows busy
    · simp only [State.busy, request.scans, List.any_append, Bool.or_eq_true]
      exact Or.inr (List.any_eq_true.mpr ⟨entry.1, List.mem_map_of_mem added, holds⟩)
  · rcases request.kept o member with same | ⟨-, created⟩
    · exact grows (scanned o state (same ▸ after) running)
    · rw [created] at after
      cases after
      cases running

end Busy

/-- One step keeps a scan with every running review. -/
theorem Step.scanned {settings : Settings} {s t : State} {op : Op} (step : Step settings s t op)
    (ends : EndsUnstarted settings s op) (scanned : RunningScanned s) : RunningScanned t := by
  cases step with
  | event move event => exact event.scanned move scanned
  | claimed move queued => exact move.scanned scanned fun _ _ _ => Or.inl rfl
  | @withdrawn i now job old move flagged =>
    refine move.scanned scanned fun state after running => ?_
    have before := ((move.review after).resolve_right fun moved => by cases moved.2).1
    have idle := ends old move.found flagged.2 job.opportunity move.mine state before
    rw [idle] at running
    cases running
  | @recovered staleAfter now jitter scans jobs reviews =>
    intro o state after running
    have before : s.review o = some state := by
      unfold State.review at after ⊢
      rwa [← reviews]
    obtain ⟨i, scan, there, holds⟩ := busy_iff.mp (scanned o state before running)
    cases finished : gaveUp settings staleAfter now scan with
    | true =>
      simp only [activeFor, Bool.and_eq_true, decide_eq_true_eq] at holds
      have idle := ends scan (List.mem_of_getElem? there) finished o holds.1 state before
      rw [idle] at running
      cases running
    | false =>
      refine busy_iff.mpr ⟨i, _, ?_, recovered_kept (jitter i) finished holds⟩
      rw [scans, Worker.recoveredScans, List.getElem?_mapIdx, there]
      rfl
  | requested asked request =>
    refine request.scanned scanned fun o member running => ?_
    cases asked with
    | refused => cases member
    | scan | retry | promote | createBatch | confirmBatch | queueBatch => cases running
    | transition p target role current complete =>
      obtain rfl := List.mem_singleton.mp member
      exact Or.inl (ends running)
    | startManual p mode profile now =>
      obtain rfl := List.mem_singleton.mp member
      exact Or.inr ⟨_, List.mem_singleton_self _, by simp [activeFor, active, manualRow,
        ScanRun.enterStage, ScanRun.prepareRun]⟩

/-- In every run whose steps end a scan outside the pipeline only while its
opportunity is in no running state, a running opportunity has an active scan. -/
theorem running_review_scanned (settings : Settings) (n : Nat) {s : State}
    (run : Runs.Reaches (fun s op => Called s op ∧ EndsUnstarted settings s op) (takes settings)
      (.initial n) s) : RunningScanned s := by
  have start : RunningScanned (.initial n) := by
    intro o review there running
    have new := List.eq_of_mem_replicate (List.mem_of_getElem? there)
    rw [new] at running
    cases running
  refine (reaches_invariant (fun _ _ ok => ok.1) ?_ run start).2
  intro s op t linked scanned ok step
  exact step.scanned ok.2 scanned

/-- A live testing scan is queued, claimed and started by a worker. -/
def startedTesting : List Op :=
  [testingRequest 0, .worker (.claim 0 "w1" "t1" 0 30), .worker (.load 0 0),
    .worker (.start 0 .testing true .manualAsync 1)]

theorem started_testing_scanned :
    (startedTesting.foldl (State.apply Settings.live) (.initial 0)).review 0 = some .testingRunning ∧
      (startedTesting.foldl (State.apply Settings.live) (.initial 0)).busy 0 = true := by
  have running : (startedTesting.foldl (State.apply Settings.live) (.initial 0)).review 0 =
      some .testingRunning := by decide +kernel
  refine ⟨running, running_review_scanned Settings.live 0 (Runs.Allowed.reaches ?_) 0 _ running rfl⟩
  refine ⟨⟨trivial, trivial⟩, ⟨trivial, trivial⟩, ⟨?_, trivial⟩, ⟨?_, trivial⟩, trivial⟩ <;>
    simp only [Called] <;> decide +kernel

/-- The scan is cancelled while its worker is gone: recovery ends it and the
opportunity stays in `testing_running`. -/
theorem recovered_review_left_running :
    ¬ ∀ (n : Nat) (s : State), Runs.Reaches Called (takes Settings.live) (.initial n) s →
      RunningScanned s := by
  intro scanned
  have allowed : Runs.Allowed Called (State.apply Settings.live) (.initial 0)
      (startedTesting ++ [.cancel 0 2, .worker (.recover 30 100 fun _ => 0)]) := by
    refine ⟨trivial, trivial, ?_, ?_, trivial, trivial, trivial⟩ <;> simp only [Called] <;>
      decide +kernel
  have idle := scanned 0 _ allowed.reaches 0 .testingRunning (by decide +kernel) rfl
  revert idle
  decide +kernel

end RankRent.Api
