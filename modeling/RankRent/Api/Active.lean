import RankRent.Api.Steps

/-!
# One active scan for each opportunity

`api_opportunity_promote` and `queue_batch` look for an active scan of the
opportunity, `api_retry_scan` only among the retries of the scan, and
`api_scan` not at all. The final block of a failed scan queues it again in a
commit after the one that marked it failed.
-/

namespace RankRent.Api
open Worker (Held Execution)

/-- How many scans of the opportunity are queued or running. -/
def State.activeScans (s : State) (o : Nat) : Nat :=
  s.worker.scans.countP fun scan => activeFor scan o

/-- The check of `api_opportunity_promote` and `queue_batch`, where the other
paths activate a scan: the opportunity has no active scan. -/
def NoneActive (s : State) : Op → Prop
  | .scan o .. | .promote _ o .. | .startManual o .. => s.busy (s.resolve o).1 = false
  | .retry i _ => ∀ job ∈ s.jobs[i]?, s.busy (s.resolve job.opportunity).1 = false
  | .worker op => ∀ (i : Nat) (scan : ScanRun) (job : Job) status, Revives s i (.worker op) status →
      s.worker.scans[i]? = some scan → s.jobs[i]? = some job → active scan = false →
      s.busy job.opportunity = false
  | _ => True

section Counting
variable {s t : State} {o : Nat}

theorem busy_false : s.busy o = false ↔ s.activeScans o = 0 := by
  simp [State.busy, State.activeScans]

theorem activeFor_of_other {scan : ScanRun} {p : Nat} (mine : scan.opportunityId = some p)
    (other : p ≠ o) : activeFor scan o = false := by
  simp [activeFor, mine, other]

/-- One row moves: either it was active for the opportunity before, or no row
was. -/
theorem RowStep.count {i : Nat} {job : Job} {old new : ScanRun} {review : Option OpportunityState}
    (move : RowStep s t i job old new review)
    (only : active new = true → active old = true ∨ s.busy job.opportunity = false)
    (one : s.activeScans o ≤ 1) : t.activeScans o ≤ 1 := by
  unfold State.activeScans at one ⊢
  rw [move.scans]
  by_cases mine : job.opportunity = o
  · subst mine
    by_cases free : s.busy job.opportunity = false
    · exact Table.countP_set_le_one (busy_false.mp free)
    · refine (Table.countP_set_le move.found fun holds => ?_).trans one
      simp only [activeFor, move.stays, move.mine, decide_true, Bool.true_and] at holds ⊢
      exact (only holds).resolve_right free
  · refine (Table.countP_set_le move.found fun holds => ?_).trans one
    rw [activeFor_of_other move.stays mine] at holds
    cases holds

/-- An event that is not a revival activates nothing. -/
theorem RowEvent.active_before {start : OpportunityState} {unreviewed : Prop}
    {revives : ScanStatus → Prop} {unleased : OpportunityState → Prop} {old new : ScanRun} {review : Option OpportunityState}
    (event : RowEvent start unreviewed revives unleased old new review)
    (now : active new = true) : active old = true ∨ ∃ status, revives status := by
  have same (status : new.status = old.status) : active old = true := by
    simpa [active, status] using now
  cases event with
  | idle status => exact Or.inl (same status)
  | requeued final _ _ => exact Or.inr ⟨_, final⟩
  | unreviewed _ status => simp [active, status] at now
  | ended status =>
    rcases status with status | status | status
    · exact Or.inl (same status)
    · simp [active, status] at now
    · simp [active, status] at now
  | started first _ => exact Or.inr ⟨_, first⟩
  | completed _ _ status =>
    rcases status with status | status
    · exact Or.inl (same status)
    · simp [active, status] at now

theorem recovered_active {settings : Settings} {now cutoff : DateTime} {jitter : ℚ} {scan : ScanRun}
    (after : activeFor (if Worker.staleScan now cutoff scan then
      Worker.recoveredScan settings now jitter scan else scan) o = true) :
    activeFor scan o = true := by
  split at after
  · rename_i stale
    simp only [Worker.staleScan, Bool.and_eq_true, decide_eq_true_eq] at stale
    simp only [activeFor, recoveredScan_opportunity, Bool.and_eq_true] at after ⊢
    exact ⟨after.1, by simp [active, stale.1.1.2]⟩
  · exact after

/-- A request that adds one row to a free opportunity. -/
theorem count_single {row : ScanRun} {p : Nat} (mine : row.opportunityId = some p)
    (free : s.busy p = false) (one : s.activeScans o ≤ 1) :
    (s.worker.scans ++ [row]).countP (fun scan => activeFor scan o) ≤ 1 := by
  rw [List.countP_append]
  by_cases same : p = o
  · subst same
    have none := busy_false.mp free
    unfold State.activeScans at none
    rw [none, Nat.zero_add]
    exact List.countP_le_length
  · rw [List.countP_singleton, activeFor_of_other mine same]
    exact one

/-- The items of a batch are different opportunities. -/
theorem count_batch {batch : Batch} (distinct : (batch.items.map BatchItem.opportunity).Nodup)
    (free : ∀ item ∈ batch.items, s.busy item.opportunity = false) (one : s.activeScans o ≤ 1) :
    (s.worker.scans ++ (batchRows batch).map Prod.fst).countP (fun scan => activeFor scan o) ≤ 1 := by
  have counted : ((batchRows batch).map Prod.fst).countP (fun scan => activeFor scan o) =
      (batch.items.map BatchItem.opportunity).count o := by
    simp only [batchRows, List.map_map, List.count, List.countP_map]
    refine List.countP_congr fun item _ => ?_
    simp [activeFor, active, ScanRun.enqueue]
  rw [List.countP_append, counted]
  by_cases member : o ∈ batch.items.map BatchItem.opportunity
  · obtain ⟨item, there, rfl⟩ := List.mem_map.mp member
    have none := busy_false.mp (free item there)
    unfold State.activeScans at none
    rw [none, Nat.zero_add]
    exact List.nodup_iff_count.mp distinct _
  · rw [List.count_eq_zero.mpr member]
    exact one

end Counting

/-- One step keeps one active scan. -/
theorem Step.one_active {settings : Settings} {s t : State} {op : Op} (step : Step settings s t op)
    (linked : Linked s) (none : NoneActive s op) {o : Nat} (one : s.activeScans o ≤ 1) :
    t.activeScans o ≤ 1 := by
  cases step with
  | @event _ i job old new review move event =>
    refine move.count (fun now => ?_) one
    by_cases before : active old = true
    · exact Or.inl before
    · refine Or.inr ?_
      obtain ⟨status, may⟩ := (event.active_before now).resolve_left before
      cases op with
      | worker op => exact none i old job status may move.found move.owned (by simpa using before)
      | _ => cases may
  | claimed move queued => exact move.count (fun _ => Or.inl (by simp [active, queued])) one
  | withdrawn move _ => exact move.count (fun now => by simp [active, ScanRun.cancelQueued] at now) one
  | recovered scans _ _ =>
    unfold State.activeScans at one ⊢
    rw [scans]
    exact (Table.countP_mapIdx_le (fun _ _ => recovered_active) _).trans one
  | requested asked request =>
    unfold State.activeScans
    rw [request.scans]
    cases asked with
    | refused | transition | createBatch | confirmBatch => simpa [State.activeScans] using one
    | scan | promote | startManual => exact count_single rfl none one
    | @retry i plan scan job found owned =>
      exact count_single rfl (none job owned) one
    | queueBatch found approved free =>
      exact count_batch (linked.items _ (List.mem_of_getElem? found)) free one

/-- In every run whose steps activate a scan only where its opportunity has no
active scan, each opportunity has at most one. -/
theorem one_active_scan (settings : Settings) (n : Nat) {s : State}
    (run : Runs.Reaches (fun s op => Called s op ∧ NoneActive s op) (takes settings) (.initial n) s)
    (o : Nat) : s.activeScans o ≤ 1 := by
  have start (o : Nat) : (State.initial n).activeScans o ≤ 1 := by
    simp [State.activeScans, State.initial]
  refine (reaches_invariant (I := fun s => ∀ o, s.activeScans o ≤ 1) (fun _ _ ok => ok.1) ?_ run
    start).2 o
  intro s op t linked one ok step o
  exact step.one_active linked ok.2 (one o)

/-- A testing scan of an opportunity, as the form sends it. -/
def testingRequest (o : Nat) : Op := .scan o .live "testing" ⟨false, 0⟩ false

theorem separate_requests_one_active :
    ([testingRequest 0, testingRequest 1].foldl (State.apply Settings.live) (.initial 0)).activeScans 1
        = 1 ∧
      ([testingRequest 0, testingRequest 1].foldl (State.apply Settings.live)
        (.initial 0)).activeScans 1 ≤ 1 := by
  refine ⟨by decide +kernel, one_active_scan Settings.live 0 (Runs.Allowed.reaches ?_) 1⟩
  refine ⟨⟨trivial, ?_⟩, ⟨trivial, ?_⟩, trivial⟩ <;> simp only [NoneActive, testingRequest] <;>
    decide +kernel

/-- The form sent twice queues two scans of the opportunity. -/
theorem two_requests_both_active :
    ¬ ∀ (n : Nat) (s : State), Runs.Reaches Called (takes Settings.live) (.initial n) s →
      ∀ o, s.activeScans o ≤ 1 := by
  intro one
  have allowed : Runs.Allowed Called (State.apply Settings.live) (.initial 0)
      [testingRequest 0, testingRequest 0] := ⟨trivial, trivial, trivial⟩
  have both := one 0 _ allowed.reaches 0
  revert both
  decide +kernel

end RankRent.Api
