import RankRent.Pipeline.Fencing

/-!
# Scans left running

What an exception inside `run_scan_by_id` leaves behind: whether the scan is
still running under a lease nobody works on, and whether a failure that should
not be retried is.
-/

namespace RankRent.Worker

/-! ## A lease is not taken up again -/

theorem owns_iff {row : ScanRun} {lease : ScanExecutionLease} :
    row.owns lease = true ↔ row.status = .running ∧ row.leaseMatches lease = true := by
  simp [ScanRun.owns]

theorem RowMove.lease {settings : Settings} {old new : ScanRun} (moves : RowMove settings old new) :
    new.leaseToken = none ∨ new.workerId = old.workerId ∧ new.leaseToken = old.leaseToken := by
  cases moves with
  | kept same _ | overwritten same _ | started same _ _ => exact Or.inr ⟨same.worker, same.token⟩
  | flagged worker token => exact Or.inr ⟨worker, token⟩
  | cancelled token | counted token => exact Or.inl token
  | released released => exact Or.inl released.token

theorem classifyFailure_status {settings : Settings} {scan : ScanRun} (error : WorkerError)
    (now : DateTime) (jitter : ℚ) (running : (scan.classifyFailure settings error now jitter).status =
      .running) : scan.status = .running := by
  unfold ScanRun.classifyFailure at running
  split at running
  · obtain status | status := retryOrQuarantine_status settings scan error.message now
      ((scan.partialOutputs.get "failed_stage").getD (.text "unknown")) jitter
    · rw [status] at running
      cases running
    · rw [status] at running
      cases running
  · exact running

theorem finalBlock_status {settings : Settings} {scan : ScanRun} (error : Option WorkerError)
    (now : DateTime) (jitter : ℚ)
    (running : (scan.finalBlock settings error now jitter).status = .running) :
    scan.status = .running := by
  have classified : ∀ row : ScanRun,
      (if row.status.terminal || row.status = .queued then row.clearLease else row).status =
        row.status := by
    intro row
    split <;> rfl
  unfold ScanRun.finalBlock at running
  simp only [classified] at running
  cases error with
  | none => exact running
  | some error =>
    simp only at running
    split at running
    · exact classifyFailure_status error now jitter running
    · exact running

section Effects
variable {settings : Settings} {reviews : List OpportunityState} {run : Execution}
  {stored new : ScanRun} {op : Op}

/-- Only the first commit of a pipeline sets its row running. -/
theorem effect_running (writes : (effect settings reviews run stored op).row = some new)
    (running : new.status = .running) :
    stored.status = .running ∨
      new.leaseMatches run.lease = true ∧ ∃ held, run.phase = .preparing held := by
  have flushed {loaded changed : ScanRun} (finished : changed.status ≠ .running)
      (status : (ScanRun.flush loaded changed stored).status = .running) :
      stored.status = .running := by
    rcases flush_status loaded changed stored with same | same
    · exact same.symm.trans status
    · exact absurd (same.symm.trans status) finished
  cases writes_of_effect writes with
  | noteClaim | heartbeat | staged => exact Or.inl running
  | failMissing | cancelled => cases running
  | started _ _ _ _ _ held phase flushed same current =>
    exact Or.inr ⟨(leaseMatches_of_current current).2, held, phase⟩
  | completed => exact Or.inl (flushed (by simp [ScanRun.completeRun]) running)
  | cancelRun => exact Or.inl (flushed (by simp [ScanRun.cancelRun]) running)
  | failed => exact Or.inl (flushed (by simp [ScanRun.failRun]) running)
  | final _ now jitter error => exact Or.inl (finalBlock_status error now jitter running)

end Effects

/-- An execution past its first commit owns its row only if it did before. -/
theorem owns_back {settings : Settings} {s : State} (inv : QueueInvariant settings s) {op : Op}
    (fresh : FreshToken s op) {e : Nat} {run : Execution} (there : s.runs[e]? = some run)
    (past : ∀ held, run.phase ≠ .preparing held) {row : ScanRun}
    (after : (s.apply settings op).scans[run.lease.scanId]? = some row)
    (owned : row.owns run.lease = true) :
    ∃ old, s.scans[run.lease.scanId]? = some old ∧ old.owns run.lease = true := by
  obtain ⟨running, matched⟩ := owns_iff.mp owned
  have token := token_of_matches matched
  obtain ⟨old, found, moves⟩ := apply_row_back inv.coherent op after
  refine ⟨old, found, ?_⟩
  rcases moves with ⟨moves, -, calm⟩ | ⟨claim, -⟩
  · -- The lease was there before, so what is left is that the row was running.
    have was : old.leaseMatches run.lease = true := by
      rcases moves.lease with none | ⟨worker, same⟩
      · rw [none] at token
        cases token
      · rw [← leaseMatches_congr worker same]
        exact matched
    refine owns_iff.mpr ⟨?_, was⟩
    cases event : op.execution with
    | none =>
      rcases calm event with none | ⟨-, -, status⟩
      · rw [none] at token
        cases token
      · rw [← status, running]
    | some j =>
      obtain same | ⟨mover, stored, moving, at_, commits⟩ := apply_event settings s event
      · rw [same, found] at after
        cases after
        exact running
      · rw [commits] at after
        simp only [State.commit] at after
        split at after
        · rw [found] at after
          cases after
          exact running
        · rename_i new written
          obtain ⟨same, rfl⟩ | ⟨-, after⟩ := Table.getElem?_set_cases after
          · rw [same, found] at at_
            cases at_
            rcases effect_running written running with was | ⟨own, held, phase⟩
            · exact was
            · rw [token_of_matches own] at token
              have self : j = e := inv.run_eq moving there (Option.some.inj token)
              subst self
              rw [moving] at there
              cases there
              exact absurd phase (past held)
          · rw [found] at after
            cases after
            exact running
  · obtain ⟨worker, name, now, seconds, rfl, rfl⟩ := claim.op
    have used : run.lease ∈ s.leases := List.mem_map_of_mem (List.mem_of_getElem? there)
    exact absurd (Option.some.inj token).symm (fresh run.lease used)

/-! ## Pipelines inside their `try` -/

theorem startEffect_staged {lease : ScanExecutionLease} {held next : Held} {stored : ScanRun}
    {profile : ScanProfile} {preliminary : Bool} {source : ScanSource} {now : DateTime}
    (staged : (startEffect lease held stored profile preliminary source now).phase = .staged next) :
    next.review = startTarget preliminary ∧ next.loaded.status = .running := by
  unfold startEffect at staged
  split at staged
  · cases staged
  · rename_i review moved
    simp only at staged
    split at staged
    · rename_i current
      split at staged
      · split at staged <;> cases staged
      · cases staged
        exact ⟨transitionSystem_ok moved, (leaseMatches_of_current current).1⟩
    · cases staged

/-- A staged session comes from the first commit, or was staged before and has
read the row again or not. -/
theorem effect_staged {settings : Settings} {reviews : List OpportunityState} {run : Execution}
    {stored : ScanRun} {op : Op} {next : Held}
    (staged : (effect settings reviews run stored op).phase = .staged next) :
    (∃ held, run.phase = .staged held ∧ next.review = held.review ∧
        (next.loaded = held.loaded ∨ next.loaded = stored ∨ next.loaded.status = .running)) ∨
      (∃ preliminary, next.review = startTarget preliminary) ∧ next.loaded.status = .running := by
  have same (phase : run.phase = .staged next) : ∃ held, run.phase = .staged held ∧
      next.review = held.review ∧
      (next.loaded = held.loaded ∨ next.loaded = stored ∨ next.loaded.status = .running) :=
    ⟨next, phase, rfl, Or.inl rfl⟩
  cases op <;> simp only [effect] at staged
  case noteClaim => exact Or.inl (same staged)
  case heartbeat => split at staged <;> exact Or.inl (same staged)
  case failMissing now =>
    split at staged
    · obtain eq | ⟨-, summary, reviewed, eq⟩ := failMissingEffect_cases run.lease stored
        (stored.opportunityId.bind fun o => reviews[o]?) now <;> rw [eq] at staged <;> cases staged
    · exact Or.inl (same staged)
  case load =>
    split at staged
    · cases staged
    · exact Or.inl (same staged)
  case start profile preliminary source now =>
    split at staged
    · obtain ⟨review, running⟩ := startEffect_staged staged
      exact Or.inr ⟨⟨preliminary, review⟩, running⟩
    · exact Or.inl (same staged)
  case refresh =>
    split at staged
    · rename_i held phase
      cases staged
      exact Or.inl ⟨held, phase, rfl, Or.inr (Or.inl rfl)⟩
    · exact Or.inl (same staged)
  case stage stage now =>
    split at staged
    · rename_i held phase
      obtain eq | ⟨current, eq⟩ := stageEffect_cases run.lease held stored stage now <;>
        rw [eq] at staged <;> cases staged
      exact Or.inl ⟨held, phase, rfl, Or.inr (Or.inr (leaseMatches_of_current current).1)⟩
    · exact Or.inl (same staged)
  case complete target reason cost now =>
    split at staged
    · rename_i held phase
      obtain eq | eq | ⟨row, review, -, -, eq⟩ :=
        completeEffect_cases run.lease held stored target reason cost now <;>
        rw [eq] at staged <;> cases staged
      exact Or.inl (same phase)
    · exact Or.inl (same staged)
  case cancelRun cost now =>
    split at staged
    · rename_i held phase
      obtain eq | ⟨error, eq⟩ | ⟨-, review, eq⟩ := cancelEffect_cases held stored cost now <;>
        rw [eq] at staged <;> cases staged
      exact Or.inl (same phase)
    · exact Or.inl (same staged)
  case fail error cost now =>
    split at staged
    · rename_i held phase
      obtain ⟨raised, eq⟩ | ⟨review, eq⟩ := failEffect_cases held stored error cost now <;>
        rw [eq] at staged <;> cases staged
    · exact Or.inl (same staged)
  case interrupt =>
    split at staged
    · cases staged
    · cases staged
    · cases staged
    · exact Or.inl (same staged)
  case final now jitter =>
    split at staged
    · split at staged <;> cases staged
    · exact Or.inl (same staged)
  case crash => cases staged
  all_goals exact Or.inl (same staged)

/-- Inside the `try` the opportunity is in its running state, and a session whose
row still runs under its lease has seen it running. -/
def InTry (s : State) : Prop :=
  ∀ (e : Nat) run held, s.runs[e]? = some run → run.phase = .staged held →
    (∃ preliminary, held.review = startTarget preliminary) ∧
      ∀ row, s.scans[run.lease.scanId]? = some row → row.owns run.lease = true →
        held.loaded.status = .running

theorem InTry.apply {settings : Settings} {s : State} (inv : QueueInvariant settings s)
    (inside : InTry s) {op : Op} (fresh : FreshToken s op) : InTry (s.apply settings op) := by
  intro e run held running staged
  obtain stays | ⟨claimed, -⟩ | ⟨before, stored, -, was, at_, rfl, -⟩ := apply_run_back op running
  · obtain ⟨review, loaded⟩ := inside e run held stays staged
    have past (held : Held) : run.phase ≠ .preparing held := by rw [staged]; exact nofun
    refine ⟨review, fun row there owned => ?_⟩
    obtain ⟨old, found, own⟩ := owns_back inv fresh stays past there owned
    exact loaded old found own
  · rw [staged] at claimed
    cases claimed
  · rcases effect_staged staged with ⟨earlier, phase, review, loaded⟩ | ⟨review, loaded⟩
    · obtain ⟨reviewed, seen⟩ := inside e before earlier was phase
      have past (held : Held) : before.phase ≠ .preparing held := by rw [phase]; exact nofun
      refine ⟨by rw [review]; exact reviewed, fun row there owned => ?_⟩
      simp only at there owned
      obtain ⟨old, found, own⟩ := owns_back inv fresh was past there owned
      rcases loaded with same | same | running
      · rw [same]
        exact seen old found own
      · rw [at_] at found
        cases found
        rw [same]
        exact (owns_iff.mp own).1
      · exact running
    · exact ⟨review, fun _ _ _ => loaded⟩

/-! ## After an exception -/

/-- The execution after a commit. -/
theorem apply_run (settings : Settings) {s : State} (op : Op) {e : Nat} {run : Execution}
    (there : s.runs[e]? = some run) :
    (s.apply settings op).runs[e]? = some run ∨
      ∃ stored, op.execution = some e ∧ s.scans[run.lease.scanId]? = some stored ∧
        (s.apply settings op).runs[e]? =
          some { run with phase := (effect settings s.reviews run stored op).phase } := by
  have bound := (List.getElem?_eq_some_iff.mp there).1
  cases event : op.execution with
  | some j =>
    obtain same | ⟨mover, stored, moving, at_, commits⟩ := apply_event settings s event
    · rw [same]
      exact Or.inl there
    · rw [commits]
      by_cases self : j = e
      · subst self
        rw [there] at moving
        cases moving
        exact Or.inr ⟨stored, rfl, at_, List.getElem?_set_self bound⟩
      · refine Or.inl ?_
        simp only [State.commit]
        rw [List.getElem?_set_ne self]
        exact there
  | none =>
    refine Or.inl ?_
    cases op with
    | requestCancel i now =>
      simp only [State.apply]
      split <;> exact there
    | cancelQueued i now => exact there
    | recover staleAfter now jitter => exact there
    | claim i worker token now seconds =>
      simp only [State.apply]
      split
      · exact there
      · rw [List.getElem?_append_left bound]
        exact there
    | _ => simp [Op.execution] at event

/-- The execution is over and its row does not run under its lease. -/
def Gone (e : Nat) (lease : ScanExecutionLease) (s : State) : Prop :=
  ∃ run, s.runs[e]? = some run ∧ run.lease = lease ∧ run.phase.active = false ∧
    ∀ row, s.scans[lease.scanId]? = some row → row.owns lease = false

theorem Gone.apply {settings : Settings} {s : State} {e : Nat} {lease : ScanExecutionLease}
    (inv : QueueInvariant settings s) (gone : Gone e lease s) {op : Op} (fresh : FreshToken s op) :
    Gone e lease (s.apply settings op) := by
  obtain ⟨run, there, rfl, finished, unowned⟩ := gone
  have past (held : Held) : run.phase ≠ .preparing held := by
    intro phase
    rw [phase] at finished
    cases finished
  have after (row : ScanRun) (found : (s.apply settings op).scans[run.lease.scanId]? = some row) :
      row.owns run.lease = false := by
    refine Bool.eq_false_iff.mpr fun owned => ?_
    obtain ⟨old, was, own⟩ := owns_back inv fresh there past found owned
    rw [unowned old was] at own
    cases own
  obtain stays | ⟨stored, -, -, moved⟩ := apply_run settings op there
  · exact ⟨run, stays, rfl, finished, after⟩
  · refine ⟨_, moved, rfl, ?_, after⟩
    refine Bool.eq_false_iff.mpr fun active => ?_
    have was := (effect_active active).1
    rw [finished] at was
    cases was

/-- What the final block will classify is not retryable. -/
def Phase.givenUp : Phase → Bool
  | .ended (some error) => !isRetryableError error
  | .ended none | .closed => true
  | .claimed | .preparing _ | .staged _ => false

theorem effect_givenUp {settings : Settings} {reviews : List OpportunityState} {run : Execution}
    {stored : ScanRun} (givenUp : run.phase.givenUp = true) (op : Op) :
    (effect settings reviews run stored op).phase.givenUp = true := by
  cases phase : run.phase with
  | claimed | preparing held | staged held =>
    rw [phase] at givenUp
    cases givenUp
  | ended error =>
    rw [phase] at givenUp
    cases op <;> simp only [effect, phase] <;> try exact givenUp
    case heartbeat => split <;> exact givenUp
    case final => split <;> rfl
    case crash => rfl
  | closed =>
    cases op <;> simp only [effect, phase] <;> try rfl
    case heartbeat => split <;> rfl

/-- What a commit makes of a failed row: it stays failed under its lease, it is
done, or its owner sets it running or retries it. -/
theorem effect_failed {settings : Settings} {reviews : List OpportunityState} {run : Execution}
    {stored new : ScanRun} {op : Op} (coherent : Coherent run stored)
    (failed : stored.status = .failed)
    (writes : (effect settings reviews run stored op).row = some new) :
    new.status = .failed ∧ new.leaseToken = stored.leaseToken ∨ Done settings new ∨
      stored.leaseMatches run.lease = true ∧ run.phase.givenUp = false := by
  have unowned {P : Prop} (owned : stored.owns run.lease = true) : P := by
    have running := (owns_iff.mp owned).1
    rw [failed] at running
    cases running
  have running_ne {now : DateTime} {P : Prop}
      (current : stored.leaseCurrent run.lease now = true) : P := by
    have running := (leaseMatches_of_current current).1
    rw [failed] at running
    cases running
  cases writes_of_effect writes with
  | noteClaim => exact Or.inl ⟨failed, rfl⟩
  | heartbeat _ _ _ owned => exact unowned owned
  | failMissing _ _ _ owned => exact unowned owned
  | cancelled _ _ _ _ _ held phase flushed same current =>
    exact Or.inr (Or.inr ⟨matches_of_flush same current, by rw [phase]; rfl⟩)
  | started _ _ _ _ _ held phase flushed same current =>
    exact Or.inr (Or.inr ⟨matches_of_flush same current, by rw [phase]; rfl⟩)
  | staged _ _ _ _ _ current => exact running_ne current
  | completed _ _ _ cost now held phase current =>
    have running := (leaseMatches_of_current current).1
    rcases flush_status held.loaded (held.loaded.completeRun cost now) stored with same | same
    · rw [same, failed] at running
      cases running
    · rw [same] at running
      cases running
  | cancelRun _ cost now held phase requested =>
    have seen : stored.cancelRequested = true := by
      simp only [Coherent, phase] at coherent
      exact coherent requested
    exact Or.inr (Or.inl (Or.inl ((sameLease_flush_cancel held stored cost now).cancel.trans seen)))
  | failed _ error cost now held =>
    refine Or.inl ⟨?_, (sameLease_flush_fail held stored error cost now).token⟩
    rcases flush_status held.loaded (held.loaded.failRun error cost now) stored with same | same
    · rw [same, failed]
    · rw [same]
      rfl
  | final _ now jitter error phase matched =>
    cases error with
    | none =>
      refine Or.inr (Or.inl (Or.inr (Or.inr ?_)))
      simp [ScanRun.finalBlock, failed, ScanStatus.terminal, ScanRun.clearLease]
    | some error =>
      cases retryable : isRetryableError error with
      | true => exact Or.inr (Or.inr ⟨matched, by simp [phase, Phase.givenUp, retryable]⟩)
      | false =>
        refine Or.inr (Or.inl (Or.inr (Or.inr ?_)))
        simp [ScanRun.finalBlock, ScanRun.classifyFailure, failed, retryable, ScanStatus.terminal,
          ScanRun.clearLease]

/-- Commits that belong to no execution leave a failed row alone. -/
theorem system_failed {settings : Settings} {s : State} {op : Op} (system : op.execution = none)
    {i : Nat} {row : ScanRun} (found : s.scans[i]? = some row) (failed : row.status = .failed) :
    (s.apply settings op).scans[i]? = some row := by
  cases op with
  | requestCancel j now =>
    simp only [State.apply]
    split
    · exact found
    · rename_i scan there
      by_cases same : j = i
      · subst same
        rw [found] at there
        cases there
        simp [requestedCancel, failed, List.getElem?_set_self (List.getElem?_eq_some_iff.mp found).1]
      · rw [List.getElem?_set_ne same]
        exact found
  | cancelQueued j now =>
    simp only [State.apply, cancelQueuedScan]
    split
    · exact found
    · rename_i scan there
      split
      · rename_i cancels
        have differs : j ≠ i := by
          rintro rfl
          rw [found] at there
          cases there
          rw [failed] at cancels
          cases cancels.1
        rw [Option.getD_some, List.getElem?_set_ne differs]
        exact found
      · exact found
  | claim j worker token now seconds =>
    simp only [State.apply]
    split
    · exact found
    · rename_i scans claimed
      obtain ⟨scan, there, queued, -, rfl⟩ := claimQueuedScan_some claimed
      have differs : j ≠ i := by
        rintro rfl
        rw [found] at there
        cases there
        rw [failed] at queued
        cases queued
      simp only
      rw [List.getElem?_set_ne differs]
      exact found
  | recover staleAfter now jitter =>
    have fresh : staleScan now (now - staleAfter) row = false := by simp [staleScan, failed]
    simp [State.apply, recoveredScans, found, fresh]
  | _ => simp [Op.execution] at system

/-- No claim takes the scan up again: it is done, or it failed under a lease
whose execution will not retry it. -/
def Unretried (settings : Settings) (e : Nat) (lease : ScanExecutionLease) (s : State) : Prop :=
  ∃ row, s.scans[lease.scanId]? = some row ∧
    (Done settings row ∨ row.status = .failed ∧ row.leaseToken = some lease.leaseToken ∧
      ∃ run, s.runs[e]? = some run ∧ run.lease = lease ∧ run.phase.givenUp = true)

theorem Unretried.apply {settings : Settings} {s : State} {e : Nat} {lease : ScanExecutionLease}
    (inv : QueueInvariant settings s) (unretried : Unretried settings e lease s) (op : Op) :
    Unretried settings e lease (s.apply settings op) ∧
      (s.apply settings op).claims lease.scanId = s.claims lease.scanId := by
  obtain ⟨row, found, done | ⟨failed, token, run, there, rfl, givenUp⟩⟩ := unretried
  · obtain ⟨new, after, ⟨moves, kept, -⟩ | ⟨claim, -⟩⟩ := apply_row settings inv.coherent op found
    · exact ⟨⟨new, after, Or.inl (done.move (inv.counted _ row found) moves)⟩, kept⟩
    · exact absurd claim (done.not_claimed (inv.counted _ row found))
  · have unclaimed : (s.apply settings op).claims run.lease.scanId = s.claims run.lease.scanId := by
      obtain ⟨new, -, ⟨-, kept, -⟩ | ⟨claim, -⟩⟩ := apply_row settings inv.coherent op found
      · exact kept
      · have queued := claim.queued
        rw [failed] at queued
        cases queued
    have later : ∃ next, (s.apply settings op).runs[e]? = some next ∧ next.lease = run.lease ∧
        next.phase.givenUp = true := by
      obtain stays | ⟨stored, -, -, moved⟩ := apply_run settings op there
      · exact ⟨run, stays, rfl, givenUp⟩
      · exact ⟨_, moved, rfl, effect_givenUp givenUp op⟩
    have kept (same : (s.apply settings op).scans[run.lease.scanId]? = some row) :
        Unretried settings e run.lease (s.apply settings op) :=
      ⟨row, same, Or.inr ⟨failed, token, later⟩⟩
    refine ⟨?_, unclaimed⟩
    cases event : op.execution with
    | none => exact kept (system_failed event found failed)
    | some j =>
      obtain same | ⟨mover, stored, moving, at_, commits⟩ := apply_event settings s event
      · exact kept (by rw [same]; exact found)
      · by_cases home : mover.lease.scanId = run.lease.scanId
        · rw [home, found] at at_
          cases at_
          cases writes : (effect settings s.reviews mover row op).row with
          | none => exact kept (by rw [commits]; simpa only [State.commit, writes] using found)
          | some new =>
            have after : (s.apply settings op).scans[run.lease.scanId]? = some new := by
              have bound := (List.getElem?_eq_some_iff.mp found).1
              rw [commits]
              simp only [State.commit, writes, home]
              exact List.getElem?_set_self bound
            have coherent := inv.coherent j mover row moving (home ▸ found)
            rcases effect_failed coherent failed writes with ⟨status, same⟩ | done | ⟨own, active⟩
            · exact ⟨new, after, Or.inr ⟨status, same.trans token, later⟩⟩
            · exact ⟨new, after, Or.inl done⟩
            · rw [token_of_matches own] at token
              have self : j = e := inv.run_eq moving there (Option.some.inj token)
              subst self
              rw [there] at moving
              cases moving
              rw [givenUp] at active
              cases active
        · refine kept ?_
          rw [commits]
          simp only [State.commit]
          split
          · exact found
          · rw [List.getElem?_set_ne home]
            exact found

/-! ## Exceptions -/

/-- Where `run_scan_by_id` was when an exception was raised. -/
inductive RaisePoint
  /-- Before its `try`: the payloads are validated, or `_fail_without_retry` is
  refused its review transition. -/
  | outside
  /-- In its `try`, before the one of `ScanPipeline.run`: the prefilter, the
  plan, a blocked plan, the review transition, plan persistence. -/
  | beforeTry
  /-- The first `_ensure_not_cancelled` of `run` finds a cancellation. -/
  | firstCheck (profile : ScanProfile) (preliminary : Bool) (source : ScanSource)
  /-- Any stage. -/
  | insideTry

/-- The states in which `run_scan_by_id` is over: at once when it was outside its
`try`, else after its final block, whatever others did in between. -/
inductive Returns (settings : Settings) (e : Nat) (s : State) : RaisePoint → State → Prop
  | outside : Returns settings e s .outside s
  | final {point : RaisePoint} {t : State} (now : DateTime) (jitter : ℚ)
      (inside : point ≠ .outside) (run : Runs.Reaches FreshToken (Step settings) s t) :
      Returns settings e s point (t.apply settings (.final e now jitter))

/-- After the exception the scan is not left running under the lease, and if
the exception is not retryable no later step of any worker claims it. -/
structure Settled (settings : Settings) (e : Nat) (lease : ScanExecutionLease) (point : RaisePoint)
    (error : WorkerError) (s : State) : Prop where
  stopped : ∀ t, Returns settings e s point t → ∀ row, t.scans[lease.scanId]? = some row →
    row.leaseMatches lease = true → row.status ≠ .running
  unretried : isRetryableError error = false → ∀ t, Runs.Reaches FreshToken (Step settings) s t →
    t.claims lease.scanId = s.claims lease.scanId

/-- The exception is raised inside the `try` of `run`, it is not a
`ScanLeaseLost`, and the reason the failure branch records for it fits. -/
def Handled (run : Execution) (error : WorkerError) : RaisePoint → Prop
  | .outside | .beforeTry => False
  | .firstCheck .. => True
  | .insideTry => error.cls ≠ .scanLeaseLost ∧ (error.cls = .scanCancelled ∨
    ∀ held, run.phase = .staged held →
      (failReason held.loaded.progressStage error).length ≤ 2000)

section Exceptions
variable {settings : Settings} {s : State} {e : Nat} {run : Execution} {row : ScanRun}

end Exceptions

end RankRent.Worker
