import RankRent.Worker.System

/-!
# Moves of a scan row

What any commit of a worker or a pipeline can do to the queue columns of a scan
row.
-/

namespace RankRent.Worker

/-! ## One commit on a row -/

/-- The columns the queue decides by, apart from the status. -/
structure SameLease (old new : ScanRun) : Prop where
  worker : new.workerId = old.workerId
  token : new.leaseToken = old.leaseToken
  retries : new.retryCount = old.retryCount
  limit : new.maxAttempts = old.maxAttempts
  cancel : new.cancelRequested = old.cancelRequested

/-- The lease is taken off and the attempt counters stay. -/
structure Released (old new : ScanRun) : Prop where
  token : new.leaseToken = none
  retries : new.retryCount = old.retryCount
  limit : new.maxAttempts = old.maxAttempts
  cancel : new.cancelRequested = old.cancelRequested

/-- Every way a commit changes the queue columns of a row. -/
inductive RowMove (settings : Settings) (old new : ScanRun) : Prop
  /-- A note, a heartbeat or a stage. -/
  | kept (same : SameLease old new) (status : new.status = old.status)
  | flagged (worker : new.workerId = old.workerId) (token : new.leaseToken = old.leaseToken)
      (retries : new.retryCount = old.retryCount)
      (limit : new.maxAttempts = old.maxAttempts) (status : new.status = old.status)
      (cancel : new.cancelRequested = true)
  | cancelled (token : new.leaseToken = none) (retries : new.retryCount = old.retryCount)
      (limit : new.maxAttempts = old.maxAttempts) (status : new.status = .cancelled)
      (cancel : new.cancelRequested = true)
  /-- A failed attempt is counted: from recovery, or from the final block of the
  owner whose failure was retryable. -/
  | counted (token : new.leaseToken = none) (retries : new.retryCount = old.retryCount + 1)
      (limit : new.maxAttempts = old.maxAttempts)
      (cancel : new.cancelRequested = old.cancelRequested)
      (from_ : old.status = .running ∨ old.status = .failed ∧ old.leaseToken.isSome)
      (status : if old.attemptLimit settings ≤ new.retryCount then new.status = .quarantined
        else new.status = .queued)
  /-- The owner gives the lease up without another attempt. -/
  | released (released : Released old new) (held : old.leaseToken.isSome)
      (status : new.status = .failed ∨ new.status = old.status ∧
        (old.status.terminal = true ∨ old.status = .queued))
  /-- A pipeline's failure or cancellation branch, whoever holds the row. -/
  | overwritten (same : SameLease old new)
      (status : new.status = old.status ∨ new.status = .failed ∨
        new.status = .cancelled ∧ old.cancelRequested = true)
  /-- A pipeline's first commit under the row's lease. -/
  | started (same : SameLease old new) (held : old.leaseToken.isSome)
      (status : new.status = .running ∨ new.status = .cancelled ∧ old.cancelRequested = true)

theorem RowMove.refl (settings : Settings) (row : ScanRun) : RowMove settings row row :=
  .kept ⟨rfl, rfl, rfl, rfl, rfl⟩ rfl

/-- A cancellation a session has seen is still on the row. -/
def Coherent (run : Execution) (stored : ScanRun) : Prop :=
  match run.phase with
  | .preparing held | .staged held => held.loaded.cancelRequested = true →
      stored.cancelRequested = true
  | .claimed | .ended _ | .closed => True

section Rows
variable {settings : Settings}

theorem sameLease_flush {loaded new stored : ScanRun} (worker : new.workerId = loaded.workerId)
    (token : new.leaseToken = loaded.leaseToken) (retries : new.retryCount = loaded.retryCount)
    (limit : new.maxAttempts = loaded.maxAttempts)
    (cancel : new.cancelRequested = loaded.cancelRequested) :
    SameLease stored (ScanRun.flush loaded new stored) := by
  constructor
  · simp only [ScanRun.flush, worker, written_unchanged]
  · simp only [ScanRun.flush, token, written_unchanged]
  · simp only [ScanRun.flush, retries, written_unchanged]
  · simp only [ScanRun.flush, limit, written_unchanged]
  · simp only [ScanRun.flush, cancel, written_unchanged]

theorem flush_status (loaded new stored : ScanRun) :
    (ScanRun.flush loaded new stored).status = stored.status ∨
      (ScanRun.flush loaded new stored).status = new.status := by
  simp only [ScanRun.flush, written]
  split
  · exact Or.inl rfl
  · exact Or.inr rfl

theorem token_isSome_of_matches {scan : ScanRun} {lease : ScanExecutionLease}
    (matches_ : scan.leaseMatches lease = true) : scan.leaseToken.isSome := by
  simp only [ScanRun.leaseMatches, Bool.and_eq_true, decide_eq_true_eq] at matches_
  rw [matches_.2]
  rfl

theorem leaseMatches_of_owns {scan : ScanRun} {lease : ScanExecutionLease}
    (owns : scan.owns lease = true) : scan.status = .running ∧ scan.leaseMatches lease = true := by
  simpa only [ScanRun.owns, Bool.and_eq_true, decide_eq_true_eq] using owns

theorem leaseMatches_of_current {scan : ScanRun} {lease : ScanExecutionLease} {now : DateTime}
    (current : scan.leaseCurrent lease now = true) :
    scan.status = .running ∧ scan.leaseMatches lease = true := by
  obtain ⟨running, worker, token, -⟩ := ScanRun.leaseCurrent_iff.mp current
  exact ⟨running, by simp [ScanRun.leaseMatches, worker, token]⟩

/-- A counted attempt is quarantined at the limit and queued below it. -/
theorem retryOrQuarantine_counted (scan : ScanRun) (summary : String) (now : DateTime)
    (stage : OutputValue) (jitter : ℚ)
    (from_ : scan.status = .running ∨ scan.status = .failed ∧ scan.leaseToken.isSome) :
    RowMove settings scan
      (scan.retryOrQuarantine settings summary now stage jitter).clearLease := by
  unfold ScanRun.retryOrQuarantine
  by_cases reached : scan.attemptLimit settings ≤ scan.retryCount + 1
  · simp only [reached, ↓reduceIte]
    exact .counted rfl rfl rfl rfl from_ (by simp [ScanRun.clearLease, reached])
  · simp only [reached, ↓reduceIte]
    exact .counted rfl rfl rfl rfl from_ (by simp [ScanRun.clearLease, reached])

theorem retryOrQuarantine_status (settings : Settings) (scan : ScanRun) (summary : String) (now : DateTime)
    (stage : OutputValue) (jitter : ℚ) :
    (scan.retryOrQuarantine settings summary now stage jitter).status = .quarantined ∨
      (scan.retryOrQuarantine settings summary now stage jitter).status = .queued := by
  unfold ScanRun.retryOrQuarantine
  by_cases reached : scan.attemptLimit settings ≤ scan.retryCount + 1 <;> simp [reached]

theorem rowMove_recovered (now cutoff : DateTime) (jitter : ℚ) {scan : ScanRun}
    (stale : staleScan now cutoff scan = true) :
    RowMove settings scan (recoveredScan settings now jitter scan) := by
  have running : scan.status = .running := by
    simp only [staleScan, Bool.and_eq_true, decide_eq_true_eq] at stale
    exact stale.1.1.2
  unfold recoveredScan
  cases cancel : scan.cancelRequested with
  | true => exact .cancelled rfl rfl rfl rfl cancel
  | false => exact retryOrQuarantine_counted _ _ _ _ _ (Or.inl running)

/-- An end that counts no attempt gives the lease up. -/
theorem rowMove_give_up {scan classified : ScanRun} (held : scan.leaseToken.isSome)
    (same : SameLease scan classified) (status : classified.status = scan.status) :
    RowMove settings scan
      (if classified.status.terminal || classified.status = .queued then classified.clearLease
        else classified) := by
  split
  · rename_i finished
    simp only [Bool.or_eq_true, decide_eq_true_eq, status] at finished
    exact .released ⟨rfl, same.retries, same.limit, same.cancel⟩ held (Or.inr ⟨status, finished⟩)
  · exact .kept same status

theorem rowMove_classified {scan : ScanRun} (held : scan.leaseToken.isSome)
    (failed : scan.status = .failed) (error : WorkerError) (now : DateTime) (jitter : ℚ) :
    RowMove settings scan
      (if (scan.classifyFailure settings error now jitter).status.terminal ||
          (scan.classifyFailure settings error now jitter).status = .queued then
        (scan.classifyFailure settings error now jitter).clearLease
      else scan.classifyFailure settings error now jitter) := by
  unfold ScanRun.classifyFailure
  cases isRetryableError error with
  | true =>
    have finished := retryOrQuarantine_status settings scan error.message now
      ((scan.partialOutputs.get "failed_stage").getD (.text "unknown")) jitter
    rw [if_pos rfl, if_pos (by rcases finished with finished | finished <;> rw [finished] <;> rfl)]
    exact retryOrQuarantine_counted _ _ _ _ _ (Or.inr ⟨failed, held⟩)
  | false =>
    rw [if_neg Bool.false_ne_true]
    exact rowMove_give_up held ⟨rfl, rfl, rfl, rfl, rfl⟩ rfl

/-- The final block: a retryable failure is counted, any other end gives the
lease up. -/
theorem rowMove_final {scan : ScanRun} (held : scan.leaseToken.isSome) (error : Option WorkerError)
    (now : DateTime) (jitter : ℚ) :
    RowMove settings scan (scan.finalBlock settings error now jitter) := by
  unfold ScanRun.finalBlock
  cases error with
  | none => exact rowMove_give_up held ⟨rfl, rfl, rfl, rfl, rfl⟩ rfl
  | some error =>
    by_cases failed : scan.status = .failed
    · simp only [failed, ↓reduceIte]
      exact rowMove_classified held failed error now jitter
    · simp only [failed, ↓reduceIte]
      exact rowMove_give_up held ⟨rfl, rfl, rfl, rfl, rfl⟩ rfl

theorem SameLease.trans {a b c : ScanRun} (first : SameLease a b) (second : SameLease b c) :
    SameLease a c :=
  ⟨second.worker.trans first.worker, second.token.trans first.token,
    second.retries.trans first.retries, second.limit.trans first.limit,
    second.cancel.trans first.cancel⟩

theorem sameLease_flush_prepare (held : Held) (stored : ScanRun) (source : ScanSource)
    (now : DateTime) :
    SameLease stored (ScanRun.flush held.loaded
      (held.loaded.prepareRun held.opportunity source now) stored) :=
  sameLease_flush rfl rfl rfl rfl rfl

theorem sameLease_flush_complete (held : Held) (stored : ScanRun) (cost : Usd) (now : DateTime) :
    SameLease stored (ScanRun.flush held.loaded (held.loaded.completeRun cost now) stored) :=
  sameLease_flush rfl rfl rfl rfl rfl

theorem sameLease_flush_cancel (held : Held) (stored : ScanRun) (cost : Usd) (now : DateTime) :
    SameLease stored (ScanRun.flush held.loaded (held.loaded.cancelRun cost now) stored) :=
  sameLease_flush rfl rfl rfl rfl rfl

theorem sameLease_flush_fail (held : Held) (stored : ScanRun) (error : WorkerError) (cost : Usd)
    (now : DateTime) :
    SameLease stored (ScanRun.flush held.loaded (held.loaded.failRun error cost now) stored) :=
  sameLease_flush rfl rfl rfl rfl rfl

/-- The first commit ends the run, commits a cancellation, or enters the first
stage; what it commits it has seen under its lease. -/
theorem startEffect_cases (lease : ScanExecutionLease) (held : Held) (stored : ScanRun)
    (profile : ScanProfile) (preliminary : Bool) (source : ScanSource) (now : DateTime) :
    (∃ error, startEffect lease held stored profile preliminary source now =
      .only (.ended error)) ∨
    ∃ flushed review, flushed = ScanRun.flush held.loaded
        (held.loaded.prepareRun held.opportunity source now) stored ∧
      flushed.leaseCurrent lease now = true ∧
      (flushed.cancelRequested = true ∧
          startEffect lease held stored profile preliminary source now =
            ⟨some (flushed.cancelRun 0 now), some (held.opportunity, review), .ended none⟩ ∨
        startEffect lease held stored profile preliminary source now =
          ⟨some (flushed.enterStage flushed .discoveringKeywords), some (held.opportunity, review),
            .staged ⟨held.opportunity, flushed.enterStage flushed .discoveringKeywords, review⟩⟩) := by
  unfold startEffect
  split
  · exact Or.inl ⟨_, rfl⟩
  · simp only
    split
    · rename_i current
      split
      · rename_i cancel
        split
        · exact Or.inl ⟨_, rfl⟩
        · exact Or.inr ⟨_, _, rfl, current, Or.inl ⟨cancel, rfl⟩⟩
      · exact Or.inr ⟨_, _, rfl, current, Or.inr rfl⟩
    · exact Or.inl ⟨_, rfl⟩

theorem stageEffect_cases (lease : ScanExecutionLease) (held : Held) (stored : ScanRun)
    (stage : ScanStage) (now : DateTime) :
    stageEffect lease held stored stage now = .only (.ended none) ∨
    stored.leaseCurrent lease now = true ∧ stageEffect lease held stored stage now =
      ⟨some (stored.enterStage held.loaded stage), none,
        .staged { held with loaded := stored.enterStage held.loaded stage }⟩ := by
  unfold stageEffect
  split
  · exact Or.inr ⟨‹_›, rfl⟩
  · exact Or.inl rfl

/-- The last commit happens only if the completed row still counts as leased. -/
theorem completeEffect_cases (lease : ScanExecutionLease) (held : Held) (stored : ScanRun)
    (target : OpportunityState) (reason : String) (cost : Usd) (now : DateTime) :
    completeEffect lease held stored target reason cost now = .only (.staged held) ∨
    completeEffect lease held stored target reason cost now = .only (.ended none) ∨
    ∃ flushed review, flushed = ScanRun.flush held.loaded (held.loaded.completeRun cost now) stored ∧
      flushed.leaseCurrent lease now = true ∧
      completeEffect lease held stored target reason cost now =
        ⟨some flushed, some (held.opportunity, review), .ended none⟩ := by
  unfold completeEffect
  split
  · exact Or.inl rfl
  · simp only
    split
    · exact Or.inr (Or.inr ⟨_, _, rfl, ‹_›, rfl⟩)
    · exact Or.inr (Or.inl rfl)

theorem cancelEffect_cases (held : Held) (stored : ScanRun) (cost : Usd) (now : DateTime) :
    cancelEffect held stored cost now = .only (.staged held) ∨
    (∃ error, cancelEffect held stored cost now = .only (.ended error)) ∨
    held.loaded.cancelRequested = true ∧ ∃ review, cancelEffect held stored cost now =
      ⟨some (ScanRun.flush held.loaded (held.loaded.cancelRun cost now) stored),
        some (held.opportunity, review), .ended none⟩ := by
  unfold cancelEffect
  split
  · split
    · exact Or.inr (Or.inl ⟨_, rfl⟩)
    · exact Or.inr (Or.inr ⟨‹_›, _, rfl⟩)
  · exact Or.inl rfl

theorem failEffect_cases (held : Held) (stored : ScanRun) (error : WorkerError) (cost : Usd)
    (now : DateTime) :
    (∃ raised, failEffect held stored error cost now = .only (.ended raised)) ∨
    ∃ review, failEffect held stored error cost now =
      ⟨some (ScanRun.flush held.loaded (held.loaded.failRun error cost now) stored),
        some (held.opportunity, review), .ended (some error)⟩ := by
  unfold failEffect
  split
  · exact Or.inl ⟨_, rfl⟩
  · exact Or.inr ⟨_, rfl⟩

theorem failMissingEffect_cases (lease : ScanExecutionLease) (stored : ScanRun)
    (review : Option OpportunityState) (now : DateTime) :
    failMissingEffect lease stored review now = .only .closed ∨
    stored.owns lease = true ∧ ∃ summary reviewed, failMissingEffect lease stored review now =
      ⟨some (stored.failWithoutRetry summary now), reviewed, .closed⟩ := by
  unfold failMissingEffect
  simp only
  split
  · split
    · split
      · exact Or.inl rfl
      · exact Or.inr ⟨‹_›, _, _, rfl⟩
    · exact Or.inr ⟨‹_›, _, _, rfl⟩
  · exact Or.inl rfl

/-- The row that an execution commits with an event, and what it has seen for it. -/
inductive Writes (settings : Settings) (run : Execution) (stored : ScanRun) : Op → ScanRun → Prop
  | noteClaim (e : Nat) (now : DateTime) : Writes settings run stored (.noteClaim e now)
      (stored.noteClaim run.lease.workerId run.lease.leaseToken now)
  | heartbeat (e : Nat) (now : DateTime) (leaseSeconds : ℚ) (owned : stored.owns run.lease = true) :
      Writes settings run stored (.heartbeat e now leaseSeconds) (stored.heartbeat now leaseSeconds)
  | failMissing (e : Nat) (now : DateTime) (summary : String) (owned : stored.owns run.lease = true) :
      Writes settings run stored (.failMissing e now) (stored.failWithoutRetry summary now)
  | cancelled (e : Nat) (profile : ScanProfile) (preliminary : Bool) (source : ScanSource)
      (now : DateTime) (held : Held) (phase : run.phase = .preparing held) (flushed : ScanRun)
      (same : SameLease stored flushed) (current : flushed.leaseCurrent run.lease now = true)
      (cancel : flushed.cancelRequested = true) :
      Writes settings run stored (.start e profile preliminary source now) (flushed.cancelRun 0 now)
  | started (e : Nat) (profile : ScanProfile) (preliminary : Bool) (source : ScanSource)
      (now : DateTime) (held : Held) (phase : run.phase = .preparing held) (flushed : ScanRun)
      (same : SameLease stored flushed) (current : flushed.leaseCurrent run.lease now = true) :
      Writes settings run stored (.start e profile preliminary source now)
        (flushed.enterStage flushed .discoveringKeywords)
  | staged (e : Nat) (stage : ScanStage) (now : DateTime) (held : Held) (phase : run.phase = .staged held)
      (current : stored.leaseCurrent run.lease now = true) :
      Writes settings run stored (.stage e stage now) (stored.enterStage held.loaded stage)
  | completed (e : Nat) (target : OpportunityState) (reason : String) (cost : Usd) (now : DateTime)
      (held : Held) (phase : run.phase = .staged held)
      (current : (ScanRun.flush held.loaded (held.loaded.completeRun cost now) stored).leaseCurrent
        run.lease now = true) :
      Writes settings run stored (.complete e target reason cost now)
        (ScanRun.flush held.loaded (held.loaded.completeRun cost now) stored)
  | cancelRun (e : Nat) (cost : Usd) (now : DateTime) (held : Held) (phase : run.phase = .staged held)
      (cancel : held.loaded.cancelRequested = true) :
      Writes settings run stored (.cancelRun e cost now)
        (ScanRun.flush held.loaded (held.loaded.cancelRun cost now) stored)
  | failed (e : Nat) (error : WorkerError) (cost : Usd) (now : DateTime) (held : Held)
      (phase : run.phase = .staged held) :
      Writes settings run stored (.fail e error cost now)
        (ScanRun.flush held.loaded (held.loaded.failRun error cost now) stored)
  | final (e : Nat) (now : DateTime) (jitter : ℚ) (error : Option WorkerError)
      (phase : run.phase = .ended error) (matched : stored.leaseMatches run.lease = true) :
      Writes settings run stored (.final e now jitter) (stored.finalBlock settings error now jitter)

theorem writes_of_effect {reviews : List OpportunityState} {run : Execution} {stored new : ScanRun}
    {op : Op} (writes : (effect settings reviews run stored op).row = some new) :
    Writes settings run stored op new := by
  cases op <;> simp only [effect] at writes
  case noteClaim => cases writes; exact .noteClaim _ _
  case heartbeat =>
    split at writes <;> cases writes
    exact .heartbeat _ _ _ ‹_›
  case failMissing now =>
    split at writes
    · obtain eq | ⟨owned, summary, reviewed, eq⟩ := failMissingEffect_cases run.lease stored
        (stored.opportunityId.bind fun o => reviews[o]?) now <;> rw [eq] at writes <;> cases writes
      exact .failMissing _ _ summary owned
    · cases writes
  case load => split at writes <;> cases writes
  case start profile preliminary source now =>
    split at writes
    · rename_i held phase
      have same := sameLease_flush_prepare held stored source now
      obtain ⟨error, eq⟩ | ⟨flushed, review, rfl, current, ⟨cancel, eq⟩ | eq⟩ :=
        startEffect_cases run.lease held stored profile preliminary source now <;>
        rw [eq] at writes <;> cases writes
      · exact .cancelled _ profile preliminary source now held phase _ same current cancel
      · exact .started _ profile preliminary source now held phase _ same current
    · cases writes
  case refresh => split at writes <;> cases writes
  case stage stage now =>
    split at writes
    · rename_i held phase
      obtain eq | ⟨current, eq⟩ := stageEffect_cases run.lease held stored stage now <;>
        rw [eq] at writes <;> cases writes
      exact .staged _ stage now held phase current
    · cases writes
  case complete target reason cost now =>
    split at writes
    · rename_i held phase
      obtain eq | eq | ⟨flushed, review, rfl, current, eq⟩ :=
        completeEffect_cases run.lease held stored target reason cost now <;>
        rw [eq] at writes <;> cases writes
      exact .completed _ target reason cost now held phase current
    · cases writes
  case cancelRun cost now =>
    split at writes
    · rename_i held phase
      obtain eq | ⟨error, eq⟩ | ⟨cancel, review, eq⟩ := cancelEffect_cases held stored cost now <;>
        rw [eq] at writes <;> cases writes
      exact .cancelRun _ cost now held phase cancel
    · cases writes
  case fail error cost now =>
    split at writes
    · rename_i held phase
      obtain ⟨raised, eq⟩ | ⟨review, eq⟩ := failEffect_cases held stored error cost now <;>
        rw [eq] at writes <;> cases writes
      exact .failed _ error cost now held phase
    · cases writes
  case interrupt => split at writes <;> cases writes
  case final =>
    split at writes
    · rename_i error phase
      split at writes <;> cases writes
      rename_i matched
      exact .final _ _ _ error phase matched
    · cases writes
  all_goals cases writes

/-- Every row an execution commits is one of these moves. -/
theorem rowMove_effect {reviews : List OpportunityState} {run : Execution} {stored new : ScanRun}
    (coherent : Coherent run stored) {op : Op}
    (writes : (effect settings reviews run stored op).row = some new) :
    RowMove settings stored new := by
  cases writes_of_effect writes with
  | noteClaim | heartbeat => exact .kept ⟨rfl, rfl, rfl, rfl, rfl⟩ rfl
  | failMissing _ _ _ owned =>
    exact .released ⟨rfl, rfl, rfl, rfl⟩ (token_isSome_of_matches (leaseMatches_of_owns owned).2)
      (Or.inl rfl)
  | cancelled _ _ _ _ _ held phase flushed same current cancel =>
    have leased := same.token ▸ token_isSome_of_matches (leaseMatches_of_current current).2
    exact .started (same.trans ⟨rfl, rfl, rfl, rfl, rfl⟩) leased (Or.inr ⟨rfl, same.cancel ▸ cancel⟩)
  | started _ _ _ _ _ held phase flushed same current =>
    have leased := same.token ▸ token_isSome_of_matches (leaseMatches_of_current current).2
    exact .started (same.trans ⟨rfl, rfl, rfl, rfl, rfl⟩) leased
      (Or.inl (leaseMatches_of_current current).1)
  | staged => exact .kept ⟨rfl, rfl, rfl, rfl, rfl⟩ rfl
  | completed _ _ _ cost now held phase current =>
    have running := (leaseMatches_of_current current).1
    rcases flush_status held.loaded (held.loaded.completeRun cost now) stored with kept | done
    · exact .kept (sameLease_flush_complete held stored cost now) kept
    · rw [running] at done
      cases done
  | cancelRun _ cost now held phase cancel =>
    have seen : held.loaded.cancelRequested = true → stored.cancelRequested = true := by
      simpa only [Coherent, phase] using coherent
    refine .overwritten (sameLease_flush_cancel held stored cost now) ?_
    exact (flush_status _ _ stored).imp_right fun done => Or.inr ⟨done, seen cancel⟩
  | failed _ error cost now held =>
    refine .overwritten (sameLease_flush_fail held stored error cost now) ?_
    exact (flush_status _ _ stored).imp_right Or.inl
  | final _ now jitter error phase matched =>
    exact rowMove_final (token_isSome_of_matches matched) error now jitter

/-- What nobody's execution does to a row: it takes the lease off, or leaves the
lease and the status. -/
def Calm (old new : ScanRun) : Prop :=
  new.leaseToken = none ∨
    new.workerId = old.workerId ∧ new.leaseToken = old.leaseToken ∧ new.status = old.status

theorem Calm.refl (row : ScanRun) : Calm row row := Or.inr ⟨rfl, rfl, rfl⟩

theorem requestedCancel_move (scan : ScanRun) (now : DateTime) :
    RowMove settings scan (requestedCancel scan now) ∧ Calm scan (requestedCancel scan now) := by
  unfold requestedCancel
  cases status : scan.status with
  | completed | failed | cancelled => exact ⟨.refl settings scan, .refl scan⟩
  | queued => exact ⟨.cancelled rfl rfl rfl rfl rfl, Or.inl rfl⟩
  | pending | running | quarantined =>
    exact ⟨.flagged rfl rfl rfl rfl status.symm rfl, Or.inr ⟨rfl, rfl, status.symm⟩⟩

end Rows

/-! ## What no move undoes -/

theorem RowMove.cancel_kept {settings : Settings} {old new : ScanRun}
    (moves : RowMove settings old new) (requested : old.cancelRequested = true) :
    new.cancelRequested = true := by
  cases moves with
  | kept same _ => exact same.cancel.trans requested
  | flagged _ _ _ _ _ cancel => exact cancel
  | cancelled _ _ _ _ cancel => exact cancel
  | counted _ _ _ cancel _ _ => exact cancel.trans requested
  | released released _ _ => exact released.cancel.trans requested
  | overwritten same _ => exact same.cancel.trans requested
  | started same _ _ => exact same.cancel.trans requested

theorem RowMove.retries_le {settings : Settings} {old new : ScanRun}
    (moves : RowMove settings old new) :
    old.retryCount ≤ new.retryCount ∧ new.maxAttempts = old.maxAttempts := by
  cases moves with
  | kept same _ => exact ⟨same.retries.ge, same.limit⟩
  | flagged _ _ retries limit _ _ => exact ⟨retries.ge, limit⟩
  | cancelled _ retries limit _ _ => exact ⟨retries.ge, limit⟩
  | counted _ retries limit _ _ _ => exact ⟨by omega, limit⟩
  | released released _ _ => exact ⟨released.retries.ge, released.limit⟩
  | overwritten same _ => exact ⟨same.retries.ge, same.limit⟩
  | started same _ _ => exact ⟨same.retries.ge, same.limit⟩

/-- A move gives the lease up or leaves its token. -/
theorem RowMove.token {settings : Settings} {old new : ScanRun} (moves : RowMove settings old new) :
    new.leaseToken = none ∨ new.leaseToken = old.leaseToken := by
  cases moves with
  | kept same _ => exact Or.inr same.token
  | flagged _ token _ _ _ _ => exact Or.inr token
  | cancelled token _ _ _ _ => exact Or.inl token
  | counted token _ _ _ _ _ => exact Or.inl token
  | released released _ _ => exact Or.inl released.token
  | overwritten same _ => exact Or.inr same.token
  | started same _ _ => exact Or.inr same.token

end RankRent.Worker
