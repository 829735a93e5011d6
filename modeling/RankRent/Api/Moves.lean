import RankRent.Api.System

/-!
# What a step does to a scan and its opportunity

One commit of a pipeline on its row and on the review of its opportunity.
-/

namespace RankRent.Api
open Worker (Held Effect Phase Execution)

/-- Every way an event of a pipeline moves its row's status and its
opportunity's review: `start` is the state its scan starts in, `unreviewed` that
the opportunity does not exist, `revives` in which status the event may
activate the scan, `unleased` to which state a run inside a request completes. -/
inductive RowEvent (start : OpportunityState) (unreviewed : Prop) (revives : ScanStatus → Prop)
    (unleased : OpportunityState → Prop) (old new : ScanRun) : Option OpportunityState → Prop
  | idle (status : new.status = old.status) : RowEvent start unreviewed revives unleased old new none
  /-- The final block of a retryable failure. -/
  | requeued (final : revives .queued) (failed : old.status = .failed)
      (status : new.status = .queued ∨ new.status = .quarantined) :
      RowEvent start unreviewed revives unleased old new none
  | unreviewed (gone : unreviewed) (status : new.status = .failed) :
      RowEvent start unreviewed revives unleased old new none
  | ended (status : new.status = old.status ∨ new.status = .failed ∨ new.status = .cancelled) :
      RowEvent start unreviewed revives unleased old new (some .needsMoreEvidence)
  | started (first : revives .running) (status : new.status = .running) :
      RowEvent start unreviewed revives unleased old new (some start)
  | completed {target : OpportunityState} (legal : completionTarget target)
      (leased : unleased target ∨ old.status = .running)
      (status : new.status = old.status ∨ new.status = .completed) :
      RowEvent start unreviewed revives unleased old new (some target)

theorem RowEvent.weaken {start : OpportunityState} {unreviewed : Prop}
    {revives revives' : ScanStatus → Prop} {unleased unleased' : OpportunityState → Prop} {old new : ScanRun} {review : Option OpportunityState}
    (may : ∀ status, revives status → revives' status) 
    (request : ∀ target, unleased target → unleased' target)
    (event : RowEvent start unreviewed revives unleased old new review) :
    RowEvent start unreviewed revives' unleased' old new review := by
  cases event with
  | idle status => exact .idle status
  | requeued final failed status => exact .requeued (may _ final) failed status
  | unreviewed gone status => exact .unreviewed gone status
  | ended status => exact .ended status
  | started first status => exact .started (may _ first) status
  | completed legal leased status => exact .completed legal (leased.imp_left (request _)) status

/-- What an event leaves on a row of opportunity `o`: the row stays with it, so
do the instances held, and only its review moves. -/
structure Leaves (start : OpportunityState) (unreviewed : Prop) (revives : ScanStatus → Prop)
    (unleased : OpportunityState → Prop) (o : Nat) (stored : ScanRun) (left : Effect) : Prop where
  row : (left.row.getD stored).opportunityId = some o
  held : ∀ held ∈ heldIn left.phase, held.opportunity = o
  review : ∀ p r, left.review = some (p, r) → p = o
  event : RowEvent start unreviewed revives unleased stored (left.row.getD stored) (left.review.map Prod.snd)

section Effects
variable {start : OpportunityState} {unreviewed : Prop} {revives : ScanStatus → Prop}
  {unleased : OpportunityState → Prop} {o : Nat} {stored : ScanRun}

theorem no_held {phase : Phase} (idle : heldIn phase = none) :
    ∀ held ∈ heldIn phase, held.opportunity = o := by
  intro held member
  rw [idle] at member
  cases member

theorem same_held {phase : Phase} {mine : Held} (only : heldIn phase = some mine)
    (ours : mine.opportunity = o) : ∀ held ∈ heldIn phase, held.opportunity = o := by
  intro held member
  rw [only] at member
  cases member
  exact ours

theorem no_review {left : Effect} (none : left.review = none) :
    ∀ p r, left.review = some (p, r) → p = o := by
  intro p r some
  rw [none] at some
  cases some

theorem same_review {left : Effect} {q : Nat} {review : OpportunityState}
    (only : left.review = some (q, review)) (ours : q = o) :
    ∀ p r, left.review = some (p, r) → p = o := by
  intro p r some
  rw [only] at some
  cases some
  exact ours

/-- An event that commits nothing. -/
theorem leaves_only (mine : stored.opportunityId = some o) {phase : Phase}
    (held : ∀ held ∈ heldIn phase, held.opportunity = o) :
    Leaves start unreviewed revives unleased o stored (.only phase) :=
  ⟨mine, held, no_review rfl, .idle rfl⟩

theorem leaves_ended (mine : stored.opportunityId = some o) (error : Option WorkerError) :
    Leaves start unreviewed revives unleased o stored (.only (.ended error)) :=
  leaves_only mine (no_held rfl)

/-- An event that commits a note on the row. -/
theorem leaves_note (row : ScanRun) (mine : row.opportunityId = some o)
    (status : row.status = stored.status) {phase : Phase}
    (held : ∀ held ∈ heldIn phase, held.opportunity = o) :
    Leaves start unreviewed revives unleased o stored ⟨some row, none, phase⟩ :=
  ⟨mine, held, no_review rfl, .idle status⟩

theorem flush_opportunity {loaded new : ScanRun} (mine : stored.opportunityId = some o)
    (same : new.opportunityId = loaded.opportunityId ∨ new.opportunityId = some o) :
    (ScanRun.flush loaded new stored).opportunityId = some o := by
  simp only [ScanRun.flush, written]
  split
  · exact mine
  · rename_i changed
    rcases same with same | same
    · exact absurd same changed
    · exact same

theorem leaves_cancel (mine : stored.opportunityId = some o) {held : Held}
    (ours : held.opportunity = o) (cost : Usd) (now : DateTime) :
    Leaves start unreviewed revives unleased o stored (Worker.cancelEffect held stored cost now) := by
  unfold Worker.cancelEffect
  split
  · split
    · exact leaves_ended mine _
    · rename_i review moved
      obtain rfl := transitionSystem_ok moved
      refine ⟨flush_opportunity mine (Or.inl rfl), no_held rfl, same_review rfl ours, .ended ?_⟩
      · rcases Worker.flush_status held.loaded (held.loaded.cancelRun cost now) stored with
          kept | done
        · exact Or.inl kept
        · exact Or.inr (Or.inr done)
  · exact leaves_only mine (same_held rfl ours)

theorem leaves_fail (mine : stored.opportunityId = some o) {held : Held}
    (ours : held.opportunity = o) (error : WorkerError) (cost : Usd) (now : DateTime) :
    Leaves start unreviewed revives unleased o stored (Worker.failEffect held stored error cost now) := by
  unfold Worker.failEffect
  split
  · exact leaves_ended mine _
  · rename_i review moved
    obtain rfl := transitionSystem_ok moved
    refine ⟨flush_opportunity mine (Or.inl rfl), no_held rfl, same_review rfl ours, .ended ?_⟩
    · rcases Worker.flush_status held.loaded (held.loaded.failRun error cost now) stored with
        kept | done
      · exact Or.inl kept
      · exact Or.inr (Or.inl done)

theorem leaves_start (first : revives .running) (lease : ScanExecutionLease) (mine : stored.opportunityId = some o)
    {held : Held} (ours : held.opportunity = o) (profile : ScanProfile) (preliminary : Bool)
    (source : ScanSource) (now : DateTime) :
    Leaves (Worker.startTarget preliminary) unreviewed revives unleased o stored
      (Worker.startEffect lease held stored profile preliminary source now) := by
  have row : (ScanRun.flush held.loaded (held.loaded.prepareRun held.opportunity source now)
      stored).opportunityId = some o :=
    flush_opportunity mine (Or.inr (congrArg some ours))
  unfold Worker.startEffect
  split
  · exact leaves_ended mine _
  · rename_i review moved
    obtain rfl := transitionSystem_ok moved
    simp only
    split
    · rename_i current
      split
      · split
        · exact leaves_ended mine _
        · rename_i review moved
          obtain rfl := transitionSystem_ok moved
          exact ⟨row, no_held rfl, same_review rfl ours, .ended (Or.inr (Or.inr rfl))⟩
      · exact ⟨row, same_held rfl ours, same_review rfl ours,
          .started first (Worker.leaseMatches_of_current current).1⟩
    · exact leaves_ended mine _

theorem leaves_complete (lease : ScanExecutionLease) (mine : stored.opportunityId = some o)
    {held : Held} (ours : held.opportunity = o) {target : OpportunityState}
    (legal : completionTarget target) (reason : String) (cost : Usd) (now : DateTime) :
    Leaves start unreviewed revives unleased o stored
      (Worker.completeEffect lease held stored target reason cost now) := by
  unfold Worker.completeEffect
  split
  · exact leaves_only mine (same_held rfl ours)
  · rename_i review moved
    obtain rfl := transitionSystem_ok moved
    simp only
    split
    · rename_i current
      -- The completed status is flushed, so the lease is current only where it was not written.
      have running := (Worker.leaseMatches_of_current current).1
      have kept := Worker.flush_status held.loaded (held.loaded.completeRun cost now) stored
      refine ⟨flush_opportunity mine (Or.inl rfl), no_held rfl, same_review rfl ours,
        .completed legal (Or.inr ?_) kept⟩
      rcases kept with kept | finished
      · rw [← kept, running]
      · rw [finished] at running
        cases running
    · exact leaves_ended mine _

theorem leaves_manualComplete (mine : stored.opportunityId = some o)
    {held : Held} (ours : held.opportunity = o) {target : OpportunityState}
    (legal : completionTarget target) (reason : String) (cost : Usd) (now : DateTime) :
    Leaves start unreviewed revives (· = target) o stored
      (manualComplete held stored target reason cost now) := by
  unfold manualComplete
  split
  · exact leaves_only mine (same_held rfl ours)
  · rename_i review moved
    obtain rfl := transitionSystem_ok moved
    exact ⟨flush_opportunity mine (Or.inl rfl), no_held rfl, same_review rfl ours,
      .completed legal (Or.inl rfl) (Worker.flush_status _ _ stored)⟩

theorem leaves_failMissing (lease : ScanExecutionLease) (mine : stored.opportunityId = some o)
    {review : Option OpportunityState} (now : DateTime) :
    Leaves start (review = none) revives unleased o stored
      (Worker.failMissingEffect lease stored review now) := by
  unfold Worker.failMissingEffect
  simp only [mine]
  split
  · cases review with
    | none => exact ⟨mine, no_held rfl, no_review rfl, .unreviewed rfl rfl⟩
    | some current =>
      simp only
      split
      · exact leaves_only mine (no_held rfl)
      · rename_i review moved
        obtain rfl := transitionSystem_ok moved
        exact ⟨mine, no_held rfl, same_review rfl rfl, .ended (Or.inr (Or.inl rfl))⟩
  · exact leaves_only mine (no_held rfl)

theorem finalBlock_opportunity (settings : Settings) (scan : ScanRun) (error : Option WorkerError)
    (now : DateTime) (jitter : ℚ) :
    (scan.finalBlock settings error now jitter).opportunityId = scan.opportunityId := by
  have classified (error : WorkerError) :
      (scan.classifyFailure settings error now jitter).opportunityId = scan.opportunityId := by
    unfold ScanRun.classifyFailure ScanRun.retryOrQuarantine
    split
    · simp only
      split <;> rfl
    · rfl
  unfold ScanRun.finalBlock
  cases error with
  | none =>
    simp only
    split <;> rfl
  | some error =>
    simp only
    split <;> split <;> simp [ScanRun.clearLease, classified]

theorem finalBlock_event (settings : Settings) (scan : ScanRun) (error : Option WorkerError)
    (final : ∀ raised, error = some raised → isRetryableError raised = true → revives .queued)
    (now : DateTime) (jitter : ℚ) :
    RowEvent start unreviewed revives unleased scan (scan.finalBlock settings error now jitter) none := by
  have classified : ∀ row : ScanRun,
      (if row.status.terminal || row.status = .queued then row.clearLease else row).status =
        row.status := by
    intro row
    split <;> rfl
  have kept (same : (scan.finalBlock settings error now jitter).status = scan.status) :
      RowEvent start unreviewed revives unleased scan (scan.finalBlock settings error now jitter) none :=
    .idle same
  cases error with
  | none => exact kept (by simp only [ScanRun.finalBlock, classified])
  | some error =>
    by_cases failed : scan.status = .failed
    · cases retry : isRetryableError error with
      | true =>
        refine .requeued (final error rfl retry) failed ?_
        simp only [ScanRun.finalBlock, classified, failed, ↓reduceIte, ScanRun.classifyFailure, retry]
        exact (Worker.retryOrQuarantine_status settings scan _ now _ jitter).symm
      | false =>
        have same : (scan.classifyFailure settings error now jitter).status = scan.status := by
          simp [ScanRun.classifyFailure, retry]
        have finished := (classified (scan.classifyFailure settings error now jitter)).trans same
        exact kept (by simpa only [ScanRun.finalBlock, if_pos failed] using finished)
    · exact kept (by simp only [ScanRun.finalBlock, classified, failed, ↓reduceIte])

end Effects

/-- The status an event may activate its scan in: the start makes it running,
the final block of a retryable failure queued. -/
def revives (run : Execution) : Worker.Op → ScanStatus → Prop
  | .start .., .running => True
  | .final .., .queued => ∃ error, run.phase = .ended (some error) ∧ isRetryableError error = true
  | _, _ => False

/-- Every event of an execution. -/
theorem effect_leaves {settings : Settings} {reviews : List OpportunityState} {run : Execution}
    {stored : ScanRun} {op : Worker.Op} {o : Nat} {start : OpportunityState}
    (mine : stored.opportunityId = some o)
    (ours : ∀ held ∈ heldIn run.phase, held.opportunity = o)
    (loads : ∀ e p, op = .load e p → p = o)
    (starts : ∀ e profile preliminary source now, op = .start e profile preliminary source now →
      Worker.startTarget preliminary = start)
    (completes : ∀ e target reason cost now, op = .complete e target reason cost now →
      completionTarget target) :
    Leaves start (reviews[o]? = none) (revives run op) (fun _ => False) o stored
      (Worker.effect settings reviews run stored op) := by
  have stays : Leaves start (reviews[o]? = none) (revives run op) (fun _ => False) o stored (.only run.phase) :=
    leaves_only mine ours
  cases op <;> simp only [Worker.effect]
  case noteClaim now =>
    refine leaves_note _ ?_ ?_ ours
    · exact mine
    · rfl
  case heartbeat now seconds =>
    split
    · refine leaves_note _ ?_ ?_ ours
      · exact mine
      · rfl
    · exact stays
  case failMissing now =>
    split
    · have bind : (stored.opportunityId.bind fun o => reviews[o]?) = reviews[o]? := by
        rw [mine]
        rfl
      rw [bind]
      exact leaves_failMissing run.lease mine now
    · exact leaves_only mine ours
  case load e p =>
    split
    · exact leaves_only mine (same_held rfl (loads e p rfl))
    · exact leaves_only mine ours
  case start e profile preliminary source now =>
    split
    · rename_i held phase
      have target := starts e profile preliminary source now rfl
      rw [← target]
      refine leaves_start trivial run.lease mine (ours held ?_) profile preliminary source now
      rw [phase]
      rfl
    · exact leaves_only mine ours
  case refresh e =>
    split
    · rename_i held phase
      refine leaves_only mine (same_held rfl (ours held ?_))
      rw [phase]
      rfl
    · exact leaves_only mine ours
  case stage e stage now =>
    split
    · rename_i held phase
      have opportunity : held.opportunity = o := ours held (by rw [phase]; rfl)
      obtain eq | ⟨-, eq⟩ := Worker.stageEffect_cases run.lease held stored stage now <;> rw [eq]
      · exact leaves_ended mine none
      · refine leaves_note _ ?_ ?_ ?_
        · exact mine
        · rfl
        · exact same_held rfl opportunity
    · exact leaves_only mine ours
  case complete e target reason cost now =>
    split
    · rename_i held phase
      have opportunity : held.opportunity = o := ours held (by rw [phase]; rfl)
      exact leaves_complete run.lease mine opportunity (completes e target reason cost now rfl)
        reason cost now
    · exact leaves_only mine ours
  case cancelRun e cost now =>
    split
    · rename_i held phase
      exact leaves_cancel mine (ours held (by rw [phase]; rfl)) cost now
    · exact leaves_only mine ours
  case fail e error cost now =>
    split
    · rename_i held phase
      exact leaves_fail mine (ours held (by rw [phase]; rfl)) error cost now
    · exact leaves_only mine ours
  case interrupt e error =>
    split
    · exact leaves_ended mine error
    · exact leaves_ended mine error
    · exact leaves_ended mine error
    · exact leaves_only mine ours
  case final e now jitter =>
    split
    · rename_i error finished
      split
      · refine ⟨?_, no_held rfl, no_review rfl,
          finalBlock_event settings stored error (fun raised same retry => ?_) now jitter⟩
        · rw [Option.getD_some, finalBlock_opportunity, mine]
        · exact ⟨raised, same ▸ finished, retry⟩
      · exact leaves_only mine (no_held rfl)
    · exact leaves_only mine ours
  case crash e => exact leaves_only mine (no_held rfl)
  all_goals exact stays

/-- The state a step of a manual run completes its opportunity to. -/
def ManualStep.completes : ManualStep → OpportunityState → Prop
  | .complete target .., state => state = target
  | _, _ => False

/-- Every step of a manual run. -/
theorem manualEffect_leaves {stored : ScanRun} {o : Nat} {start : OpportunityState}
    {unreviewed : Prop} (mine : stored.opportunityId = some o) {held : Held} (ours : held.opportunity = o)
    {step : ManualStep} (now : DateTime)
    (completes : ∀ target reason cost, step = .complete target reason cost →
      completionTarget target) :
    Leaves start unreviewed (fun _ => False) step.completes o stored (manualEffect held stored now step) := by
  cases step with
  | refresh => exact leaves_only mine (same_held rfl ours)
  | stage stage =>
    refine leaves_note _ ?_ ?_ ?_
    · exact flush_opportunity mine (Or.inl rfl)
    · simp [ScanRun.flush, ScanRun.enterStage]
    · exact same_held rfl ours
  | complete target reason cost =>
    exact leaves_manualComplete mine ours (completes target reason cost rfl) reason cost now
  | cancel cost => exact leaves_cancel mine ours cost now
  | fail error cost => exact leaves_fail mine ours error cost now
  | stop => exact leaves_only mine (no_held rfl)

end RankRent.Api
