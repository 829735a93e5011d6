import RankRent.Worker.Attempts

/-!
# Fencing of the pipeline's commits

A pipeline commits under its own lease: stage changes compare it, the first and
the last commit read it in their own transaction. The failure and cancellation
branches read nothing, so they are fenced only when they run while the row is
still theirs.
-/

namespace RankRent.Worker

/-- The commits of `ScanPipeline.run`. -/
def Op.pipeline : Op → Bool
  | .start .. | .stage .. | .complete .. | .cancelRun .. | .fail .. => true
  | _ => false

/-- What a pipeline commits, to its scan row or to its opportunity's review, it
commits while the row runs under its lease. -/
def FencedCommit (settings : Settings) (s : State) (op : Op) : Prop :=
  ∀ e ∈ op.execution, op.pipeline = true → ∀ run ∈ s.runs[e]?,
    ∀ stored ∈ s.scans[run.lease.scanId]?,
    (effect settings s.reviews run stored op).row.isSome ∨
      (effect settings s.reviews run stored op).review.isSome →
    stored.owns run.lease = true

/-- A failure or cancellation branch runs while the row is still the
pipeline's. -/
def BranchUnderLease (s : State) : Op → Prop
  | .cancelRun e _ _ | .fail e _ _ _ => ∀ run ∈ s.runs[e]?,
      ∀ stored ∈ s.scans[run.lease.scanId]?, stored.owns run.lease = true
  | _ => True

/-! ## A pipeline's row runs -/

/-- The pipeline is not over. -/
def Phase.active : Phase → Bool
  | .claimed | .preparing _ | .staged _ => true
  | .ended _ | .closed => false

/-- While a pipeline is active, a row under its lease is running. -/
def LeaseRunning (s : State) : Prop :=
  ∀ (e : Nat) run row, s.runs[e]? = some run → run.phase.active = true →
    s.scans[run.lease.scanId]? = some row → row.leaseMatches run.lease = true →
    row.status = .running

theorem leaseMatches_congr {old new : ScanRun} (worker : new.workerId = old.workerId)
    (token : new.leaseToken = old.leaseToken) (lease : ScanExecutionLease) :
    new.leaseMatches lease = old.leaseMatches lease := by
  simp only [ScanRun.leaseMatches, worker, token]

theorem matches_of_flush {lease : ScanExecutionLease} {now : DateTime} {flushed stored : ScanRun}
    (same : SameLease stored flushed) (current : flushed.leaseCurrent lease now = true) :
    stored.leaseMatches lease = true := by
  rw [← leaseMatches_congr same.worker same.token lease]
  exact (leaseMatches_of_current current).2

/-- A failure or cancellation branch. -/
def Op.branch : Op → Bool
  | .cancelRun .. | .fail .. => true
  | _ => false

section Effects
variable {settings : Settings} {reviews : List OpportunityState} {run : Execution}
  {stored new : ScanRun} {op : Op}

/-- What an execution writes keeps the status and the lease, or is written on a
row under its own lease, which it leaves under it or gives up. -/
theorem effect_written (branch : op.branch = true → stored.owns run.lease = true)
    (writes : (effect settings reviews run stored op).row = some new) :
    SameLease stored new ∧ new.status = stored.status ∨
      stored.leaseMatches run.lease = true ∧
        (new.leaseToken = none ∨ new.leaseToken = stored.leaseToken) := by
  cases writes_of_effect writes with
  | noteClaim | heartbeat | staged => exact Or.inl ⟨⟨rfl, rfl, rfl, rfl, rfl⟩, rfl⟩
  | failMissing _ _ _ owned => exact Or.inr ⟨(leaseMatches_of_owns owned).2, Or.inl rfl⟩
  | cancelled _ _ _ _ _ held phase flushed same current =>
    exact Or.inr ⟨matches_of_flush same current, Or.inr same.token⟩
  | started _ _ _ _ _ held phase flushed same current =>
    exact Or.inr ⟨matches_of_flush same current, Or.inr same.token⟩
  | completed _ _ _ cost now held phase current =>
    have same := sameLease_flush_complete held stored cost now
    exact Or.inr ⟨matches_of_flush same current, Or.inr same.token⟩
  | cancelRun _ cost now held =>
    exact Or.inr ⟨(leaseMatches_of_owns (branch rfl)).2,
      Or.inr (sameLease_flush_cancel held stored cost now).token⟩
  | failed _ error cost now held =>
    exact Or.inr ⟨(leaseMatches_of_owns (branch rfl)).2,
      Or.inr (sameLease_flush_fail held stored error cost now).token⟩
  | final _ now jitter error phase matched =>
    exact Or.inr ⟨matched, (rowMove_final (token_isSome_of_matches matched) error now jitter).token⟩

/-- An event that leaves its pipeline active wrote nothing, or left the row as
it was or running. -/
theorem effect_active (active : (effect settings reviews run stored op).phase.active = true) :
    run.phase.active = true ∧
      ∀ new, (effect settings reviews run stored op).row = some new →
        SameLease stored new ∧ new.status = stored.status ∨ new.status = .running := by
  have unwritten {phase : Phase} (was : run.phase.active = true) : run.phase.active = true ∧
      ∀ new, (Effect.only phase).row = some new →
        SameLease stored new ∧ new.status = stored.status ∨ new.status = .running :=
    ⟨was, fun _ writes => by cases writes⟩
  revert active
  cases op <;> simp only [effect]
  case noteClaim =>
    refine fun active => ⟨active, fun new writes => ?_⟩
    cases writes
    exact Or.inl ⟨⟨rfl, rfl, rfl, rfl, rfl⟩, rfl⟩
  case heartbeat =>
    split
    · refine fun active => ⟨active, fun new writes => ?_⟩
      cases writes
      exact Or.inl ⟨⟨rfl, rfl, rfl, rfl, rfl⟩, rfl⟩
    · exact unwritten
  case failMissing now =>
    split
    · obtain eq | ⟨-, summary, reviewed, eq⟩ := failMissingEffect_cases run.lease stored
        (stored.opportunityId.bind fun o => reviews[o]?) now <;> rw [eq] <;> intro impossible <;> cases impossible
    · exact unwritten
  case load =>
    split
    · rename_i phase review
      exact fun _ => unwritten (by rw [phase]; rfl)
    · exact unwritten
  case start profile preliminary source now =>
    split
    · rename_i held phase
      obtain ⟨error, eq⟩ | ⟨flushed, review, -, current, ⟨-, eq⟩ | eq⟩ :=
        startEffect_cases run.lease held stored profile preliminary source now <;> rw [eq]
      · intro impossible
        cases impossible
      · intro impossible
        cases impossible
      · refine fun _ => ⟨by rw [phase]; rfl, fun new writes => ?_⟩
        cases writes
        exact Or.inr (leaseMatches_of_current current).1
    · exact unwritten
  case refresh =>
    split
    · rename_i held phase
      exact fun _ => unwritten (by rw [phase]; rfl)
    · exact unwritten
  case stage stage now =>
    split
    · rename_i held phase
      obtain eq | ⟨-, eq⟩ := stageEffect_cases run.lease held stored stage now <;> rw [eq]
      · intro impossible
        cases impossible
      · refine fun _ => ⟨by rw [phase]; rfl, fun new writes => ?_⟩
        cases writes
        exact Or.inl ⟨⟨rfl, rfl, rfl, rfl, rfl⟩, rfl⟩
    · exact unwritten
  case complete target reason cost now =>
    split
    · rename_i held phase
      obtain eq | eq | ⟨flushed, review, -, -, eq⟩ :=
        completeEffect_cases run.lease held stored target reason cost now <;> rw [eq]
      · exact fun _ => unwritten (by rw [phase]; rfl)
      · intro impossible
        cases impossible
      · intro impossible
        cases impossible
    · exact unwritten
  case cancelRun cost now =>
    split
    · rename_i held phase
      obtain eq | ⟨error, eq⟩ | ⟨-, review, eq⟩ := cancelEffect_cases held stored cost now <;> rw [eq]
      · exact fun _ => unwritten (by rw [phase]; rfl)
      · intro impossible
        cases impossible
      · intro impossible
        cases impossible
    · exact unwritten
  case fail error cost now =>
    split
    · rename_i held phase
      obtain ⟨raised, eq⟩ | ⟨review, eq⟩ := failEffect_cases held stored error cost now <;>
        rw [eq] <;> intro impossible <;> cases impossible
    · exact unwritten
  case interrupt =>
    split
    · intro impossible
      cases impossible
    · intro impossible
      cases impossible
    · intro impossible
      cases impossible
    · exact unwritten
  case final =>
    split
    · split <;> intro impossible <;> cases impossible
    · exact unwritten
  case crash =>
    intro impossible
    cases impossible
  all_goals exact unwritten

/-- A pipeline commits under its lease when its branches do and its row runs. -/
theorem effect_fenced (pipeline : op.pipeline = true)
    (branch : op.branch = true → stored.owns run.lease = true)
    (running : run.phase.active = true → stored.leaseMatches run.lease = true →
      stored.status = .running)
    (commits : (effect settings reviews run stored op).row.isSome ∨
      (effect settings reviews run stored op).review.isSome) :
    stored.owns run.lease = true := by
  have unwritten {phase : Phase}
      (commits : (Effect.only phase).row.isSome ∨ (Effect.only phase).review.isSome) :
      stored.owns run.lease = true := by
    rcases commits with commits | commits <;> cases commits
  have own {held : Held} (phase : run.phase = .preparing held ∨ run.phase = .staged held)
      (matched : stored.leaseMatches run.lease = true) : stored.owns run.lease = true := by
    have active : run.phase.active = true := by
      rcases phase with phase | phase <;> rw [phase] <;> rfl
    simp [ScanRun.owns, running active matched, matched]
  cases op <;> simp only [Op.pipeline, Bool.false_eq_true] at pipeline <;>
    simp only [effect] at commits
  case start profile preliminary source now =>
    split at commits
    · rename_i held phase
      have same := sameLease_flush_prepare held stored source now
      obtain ⟨error, eq⟩ | ⟨flushed, review, rfl, current, -⟩ :=
        startEffect_cases run.lease held stored profile preliminary source now
      · rw [eq] at commits
        exact unwritten commits
      · exact own (Or.inl phase) (matches_of_flush same current)
    · exact unwritten commits
  case stage stage now =>
    split at commits
    · rename_i held phase
      obtain eq | ⟨current, -⟩ := stageEffect_cases run.lease held stored stage now
      · rw [eq] at commits
        exact unwritten commits
      · exact own (Or.inr phase) (leaseMatches_of_current current).2
    · exact unwritten commits
  case complete target reason cost now =>
    split at commits
    · rename_i held phase
      have same := sameLease_flush_complete held stored cost now
      obtain eq | eq | ⟨flushed, review, rfl, current, -⟩ :=
        completeEffect_cases run.lease held stored target reason cost now
      · rw [eq] at commits
        exact unwritten commits
      · rw [eq] at commits
        exact unwritten commits
      · exact own (Or.inr phase) (matches_of_flush same current)
    · exact unwritten commits
  case cancelRun => exact branch rfl
  case fail => exact branch rfl

end Effects

/-! ## Runs -/

theorem QueueInvariant.run_eq {settings : Settings} {s : State} (inv : QueueInvariant settings s)
    {e e' : Nat} {run run' : Execution} (running : s.runs[e]? = some run)
    (running' : s.runs[e']? = some run') (same : run.lease.leaseToken = run'.lease.leaseToken) :
    e = e' := by
  have bound : e < (s.leases.map ScanExecutionLease.leaseToken).length := by
    simpa [State.leases] using (List.getElem?_eq_some_iff.mp running).1
  refine (List.getElem?_inj bound inv.tokens).mp ?_
  simp [State.leases, running, running', same]

theorem token_of_matches {row : ScanRun} {lease : ScanExecutionLease}
    (matched : row.leaseMatches lease = true) : row.leaseToken = some lease.leaseToken := by
  simp only [ScanRun.leaseMatches, Bool.and_eq_true, decide_eq_true_eq] at matched
  exact matched.2

theorem BranchUnderLease.owns {s : State} {op : Op} (under : BranchUnderLease s op) {e : Nat}
    {run : Execution} {stored : ScanRun} (event : op.execution = some e)
    (running : s.runs[e]? = some run) (there : s.scans[run.lease.scanId]? = some stored)
    (branch : op.branch = true) : stored.owns run.lease = true := by
  cases op <;> simp only [Op.branch, Bool.false_eq_true] at branch <;>
    simp only [Op.execution, Option.some.injEq] at event <;> subst event
  · exact under run running stored there
  · exact under run running stored there

/-- A commit whose branches run under their lease keeps every active pipeline's
row running. -/
theorem LeaseRunning.apply {settings : Settings} {s : State} (inv : QueueInvariant settings s)
    (leased : LeaseRunning s) {op : Op} (fresh : FreshToken s op) (under : BranchUnderLease s op) :
    LeaseRunning (s.apply settings op) := by
  intro e run row running active there matched
  have token := token_of_matches matched
  obtain ⟨old, found, moves⟩ := apply_row_back inv.coherent op there
  -- The row of an execution that was there before, when nobody's execution wrote it.
  have calm (was : s.runs[e]? = some run) (system : op.execution = none) : row.status = .running := by
    rcases moves with ⟨-, -, calm⟩ | ⟨claim, -⟩
    · rcases calm system with none | ⟨worker, same, status⟩
      · rw [none] at token
        cases token
      · rw [status]
        exact leased e run old was active found
          (by rw [← leaseMatches_congr worker same]; exact matched)
    · obtain ⟨worker, name, now, seconds, rfl, rfl⟩ := claim.op
      have used : run.lease ∈ s.leases :=
        List.mem_map_of_mem (List.mem_of_getElem? was)
      exact absurd (Option.some.inj token).symm (fresh run.lease used)
  obtain stays | ⟨-, before, now, seconds, claimed⟩ | ⟨before, stored, event, was, at_, rfl, scans⟩ :=
    apply_run_back op running
  · cases event : op.execution with
    | none => exact calm stays event
    | some j =>
      obtain same | ⟨mover, stored, moving, at_, commits⟩ := apply_event settings s event
      · rw [same] at there
        exact leased e run row stays active there matched
      · rw [commits] at there
        simp only [State.commit] at there
        split at there
        · exact leased e run row stays active there matched
        · rename_i new written
          obtain ⟨same, rfl⟩ | ⟨-, there⟩ := Table.getElem?_set_cases there
          · have home : s.scans[run.lease.scanId]? = some stored := same ▸ at_
            have quiet (kept : SameLease stored row) (status : row.status = stored.status) :
                row.status = .running := by
              rw [status]
              exact leased e run stored stays active home
                (by rw [← leaseMatches_congr kept.worker kept.token]; exact matched)
            rcases effect_written (under.owns event moving at_) written with
              ⟨kept, status⟩ | ⟨own, none | kept⟩
            · exact quiet kept status
            · rw [none] at token
              cases token
            · -- The row is the mover's, so the mover is this execution, still active.
              rw [kept, token_of_matches own] at token
              have self : j = e := inv.run_eq moving stays (Option.some.inj token)
              subst self
              rw [commits] at running
              have left : { mover with phase := (effect settings s.reviews mover stored op).phase } =
                  run := by
                have bound := (List.getElem?_eq_some_iff.mp moving).1
                simp only [State.commit, List.getElem?_set_self bound, Option.some.injEq] at running
                exact running
              have active : (effect settings s.reviews mover stored op).phase.active = true := by
                rw [← left] at active
                exact active
              exact ((effect_active active).2 row written).elim (fun same => quiet same.1 same.2) id
          · exact leased e run row stays active there matched
  · rw [claimed] at there
    cases there
    rfl
  · obtain ⟨was_active, kept⟩ := effect_active active
    rw [scans] at there
    split at there
    · exact leased e before row was was_active there matched
    · rename_i new written
      obtain ⟨-, rfl⟩ | ⟨differs, -⟩ := Table.getElem?_set_cases there
      · rcases kept row written with ⟨same, status⟩ | running
        · rw [status]
          exact leased e before stored was was_active at_
            (by rw [← leaseMatches_congr same.worker same.token]; exact matched)
        · exact running
      · exact absurd rfl differs

/-- In every run whose failure and cancellation branches find the row still
theirs, whatever a pipeline commits it commits while the row runs under its
lease. -/
theorem pipeline_commits_fenced (settings : Settings) {start s : State}
    (queued : start.Queued settings)
    (run : Runs.Reaches (fun s op => FreshToken s op ∧ BranchUnderLease s op) (Step settings) start s)
    {op : Op} (under : BranchUnderLease s op) : FencedCommit settings s op := by
  have inv : QueueInvariant settings s ∧ LeaseRunning s := by
    refine run.invariant (I := fun s => QueueInvariant settings s ∧ LeaseRunning s) ?_
      ⟨queued.invariant, ?_⟩
    · rintro s op t ⟨inv, leased⟩ ⟨fresh, under⟩ rfl
      exact ⟨inv.apply fresh, leased.apply inv fresh under⟩
    · intro e run row running
      rw [queued.runs] at running
      cases running
  intro e event pipeline run running stored there commits
  exact effect_fenced pipeline (under.owns event running there)
    (fun active matched => inv.2 e run stored running active there matched) commits

instance (s : State) : (op : Op) → Decidable (BranchUnderLease s op)
  | .cancelRun e _ _ | .fail e _ _ _ =>
    inferInstanceAs (Decidable (∀ run ∈ s.runs[e]?, ∀ stored ∈ s.scans[run.lease.scanId]?,
      stored.owns run.lease = true))
  | .requestCancel .. | .cancelQueued .. | .claim .. | .noteClaim .. | .heartbeat .. | .recover ..
  | .failMissing .. | .load .. | .start .. | .refresh .. | .stage .. | .complete ..
  | .interrupt .. | .final .. | .crash .. => inferInstanceAs (Decidable True)

instance (settings : Settings) (s : State) (op : Op) : Decidable (FencedCommit settings s op) :=
  inferInstanceAs (Decidable (∀ e ∈ op.execution, op.pipeline = true → ∀ run ∈ s.runs[e]?,
    ∀ stored ∈ s.scans[run.lease.scanId]?,
    (effect settings s.reviews run stored op).row.isSome ∨
      (effect settings s.reviews run stored op).review.isSome →
    stored.owns run.lease = true))

/-- One execution is claimed, started and in its second stage. -/
def inSecondStage : List Op :=
  [.claim 0 "w1" "t1" 0 30, .load 0 0, .start 0 .testing true .manualAsync 1,
    .stage 0 .fetchingMetrics 2]

theorem pipeline_failure_fenced :
    FencedCommit Settings.live (inSecondStage.foldl (State.apply Settings.live) oneQueued)
      (.fail 0 ⟨.timeout, "timed out"⟩ 0 3) :=
  pipeline_commits_fenced Settings.live oneQueued_queued
    (Runs.Allowed.reaches (by decide +kernel)) (by decide +kernel)

/-- The lease of the first worker expires, the scan is recovered and claimed by
a second worker, and the first worker's pipeline then fails. -/
theorem recovered_pipeline_overwrites :
    ¬ ∀ (start s : State) (op : Op), start.Queued Settings.live →
      Runs.Reaches FreshToken (Step Settings.live) start s → FencedCommit Settings.live s op := by
  intro fenced
  have run : Runs.Reaches FreshToken (Step Settings.live) oneQueued
      ((inSecondStage ++ [Op.recover 30 100 fun _ => 0, Op.claim 0 "w2" "t2" 200 30]).foldl
        (State.apply Settings.live) oneQueued) :=
    Runs.Allowed.reaches (by decide +kernel)
  have commits := fenced _ _ (.fail 0 ⟨.timeout, "timed out"⟩ 0 201) oneQueued_queued run
  revert commits
  decide +kernel

end RankRent.Worker
