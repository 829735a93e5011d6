import RankRent.Worker.RowMoves

/-!
# Commits of the workers

One commit of the system on each row, on the leases handed out and on the
sessions of the executions.
-/

namespace RankRent.Worker

/-! ## One commit of the system -/

/-- The leases handed out, one for each claim. -/
def State.leases (s : State) : List ScanExecutionLease := s.runs.map Execution.lease

/-- How often a scan was claimed. -/
def State.claims (s : State) (i : Nat) : Nat := s.leases.countP fun lease => lease.scanId = i

theorem commit_leases {s : State} {e : Nat} {run : Execution} (found : s.runs[e]? = some run)
    (left : Effect) : (s.commit e run left).leases = s.leases := by
  have stays : s.leases[e]? = some run.lease := by simp [State.leases, found]
  simp only [State.leases, State.commit, List.map_set]
  exact Table.set_same stays

/-- An event of an execution commits its effect. -/
theorem apply_commit (settings : Settings) {s : State} {op : Op} {e : Nat}
    (event : op.execution = some e) {run : Execution} {stored : ScanRun}
    (found : s.runs[e]? = some run) (there : s.scans[run.lease.scanId]? = some stored) :
    s.apply settings op = s.commit e run (effect settings s.reviews run stored op) := by
  cases op <;> simp only [Op.execution, Option.some.injEq, reduceCtorEq] at event <;>
    subst event <;> simp [State.apply, Op.execution, found, there]

/-- An event commits its effect, or there is nothing to do. -/
theorem apply_event (settings : Settings) (s : State) {op : Op} {e : Nat}
    (event : op.execution = some e) :
    s.apply settings op = s ∨
      ∃ run stored, s.runs[e]? = some run ∧ s.scans[run.lease.scanId]? = some stored ∧
        s.apply settings op = s.commit e run (effect settings s.reviews run stored op) := by
  cases found : s.runs[e]? with
  | none =>
    refine Or.inl ?_
    cases op <;> simp only [Op.execution, Option.some.injEq, reduceCtorEq] at event <;> subst event <;>
      simp [State.apply, Op.execution, found]
  | some run =>
    cases there : s.scans[run.lease.scanId]? with
    | none =>
      refine Or.inl ?_
      cases op <;> simp only [Op.execution, Option.some.injEq, reduceCtorEq] at event <;>
        subst event <;> simp [State.apply, Op.execution, found, there]
    | some stored => exact Or.inr ⟨run, stored, rfl, there, apply_commit settings event found there⟩

/-- Every execution's session agrees with its row on the cancellation. -/
def AllCoherent (s : State) : Prop :=
  ∀ (e : Nat) run row, s.runs[e]? = some run → s.scans[run.lease.scanId]? = some row →
    Coherent run row

/-- A row committed alone. -/
theorem set_row {R : ScanRun → ScanRun → Prop} (refl : ∀ row, R row row) {scans : List ScanRun}
    {i j : Nat} {old new row : ScanRun} (found : scans[i]? = some old)
    (there : scans[j]? = some row) (moves : R old new) :
    ∃ after, (scans.set i new)[j]? = some after ∧ R row after := by
  by_cases same : i = j
  · subst same
    rw [found] at there
    cases there
    exact ⟨new, List.getElem?_set_self (List.getElem?_eq_some_iff.mp found).1, moves⟩
  · rw [List.getElem?_set_ne same]
    exact ⟨row, there, refl row⟩

/-- The claim of a queued scan that was not cancelled. -/
structure Claims (i : Nat) (op : Op) (old new : ScanRun) : Prop where
  op : ∃ worker token now seconds, op = .claim i worker token now seconds ∧
    new = old.claim worker token now seconds
  queued : old.status = .queued
  wanted : old.cancelRequested = false

theorem claimQueuedScan_some {scans scans' : List ScanRun} {i : Nat} {worker token : String}
    {now : DateTime} {seconds : ℚ}
    (claimed : claimQueuedScan scans i worker token now seconds = some scans') :
    ∃ scan, scans[i]? = some scan ∧ scan.status = .queued ∧ scan.cancelRequested = false ∧
      scans' = scans.set i (scan.claim worker token now seconds) := by
  unfold claimQueuedScan at claimed
  split at claimed
  · cases claimed
  · rename_i scan there
    split at claimed
    · rename_i guard
      exact ⟨scan, there, guard.1, by simpa using guard.2.1, (Option.some.inj claimed).symm⟩
    · cases claimed

/-- A commit that belongs to no execution. -/
def System (settings : Settings) (old new : ScanRun) : Prop := RowMove settings old new ∧ Calm old new

theorem System.refl (settings : Settings) (row : ScanRun) : System settings row row :=
  ⟨.refl settings row, .refl row⟩

/-- One commit moves a row in one of the ways above, or claims it. -/
theorem apply_row (settings : Settings) {s : State} (coherent : AllCoherent s) (op : Op) {i : Nat}
    {old : ScanRun} (found : s.scans[i]? = some old) :
    ∃ new, (s.apply settings op).scans[i]? = some new ∧
      (RowMove settings old new ∧ (s.apply settings op).claims i = s.claims i ∧
          (op.execution = none → Calm old new) ∨
        Claims i op old new ∧ (s.apply settings op).claims i = s.claims i + 1) := by
  cases event : op.execution with
  | some e =>
    obtain same | ⟨run, stored, running, there, commits⟩ := apply_event settings s event
    · rw [same]
      exact ⟨old, found, Or.inl ⟨.refl settings old, rfl, nofun⟩⟩
    · have leases := commit_leases running (effect settings s.reviews run stored op)
      rw [commits]
      simp only [State.claims, leases]
      cases writes : (effect settings s.reviews run stored op).row with
      | none =>
        refine ⟨old, ?_, Or.inl ⟨.refl settings old, trivial, nofun⟩⟩
        simp only [State.commit, writes]
        exact found
      | some row =>
        have moves := rowMove_effect (coherent e run stored running there) writes
        obtain ⟨new, after, moved⟩ := set_row (R := RowMove settings) (.refl settings) there found moves
        refine ⟨new, ?_, Or.inl ⟨moved, trivial, nofun⟩⟩
        simp only [State.commit, writes]
        exact after
  | none =>
    have stays : s.scans[i]? = some old ∧ System settings old old := ⟨found, .refl settings old⟩
    cases op with
    | requestCancel j now =>
      simp only [State.apply]
      split
      · exact ⟨old, found, Or.inl ⟨stays.2.1, rfl, fun _ => stays.2.2⟩⟩
      · rename_i scan there
        obtain ⟨new, after, moved, calm⟩ := set_row (System.refl settings) there found
          (requestedCancel_move scan now)
        exact ⟨new, after, Or.inl ⟨moved, rfl, fun _ => calm⟩⟩
    | cancelQueued j now =>
      simp only [State.apply, cancelQueuedScan]
      split
      · exact ⟨old, found, Or.inl ⟨stays.2.1, rfl, fun _ => stays.2.2⟩⟩
      · rename_i scan there
        split
        · rename_i cancels
          have moves : System settings scan (scan.cancelQueued now) :=
            ⟨.cancelled rfl rfl rfl rfl cancels.2, Or.inl rfl⟩
          obtain ⟨new, after, moved, calm⟩ := set_row (System.refl settings) there found moves
          exact ⟨new, after, Or.inl ⟨moved, rfl, fun _ => calm⟩⟩
        · exact ⟨old, found, Or.inl ⟨stays.2.1, rfl, fun _ => stays.2.2⟩⟩
    | claim j worker token now seconds =>
      simp only [State.apply]
      split
      · exact ⟨old, found, Or.inl ⟨stays.2.1, rfl, fun _ => stays.2.2⟩⟩
      · rename_i scans claimed
        obtain ⟨scan, there, queued, wanted, rfl⟩ := claimQueuedScan_some claimed
        by_cases same : j = i
        · subst same
          rw [found] at there
          cases there
          refine ⟨_, List.getElem?_set_self (List.getElem?_eq_some_iff.mp found).1,
            Or.inr ⟨⟨⟨worker, token, now, seconds, rfl, rfl⟩, queued, wanted⟩, ?_⟩⟩
          simp [State.claims, State.leases]
        · refine ⟨old, by rw [List.getElem?_set_ne same]; exact found,
            Or.inl ⟨stays.2.1, ?_, fun _ => stays.2.2⟩⟩
          simp [State.claims, State.leases, same]
    | recover staleAfter now jitter =>
      refine ⟨if staleScan now (now - staleAfter) old then recoveredScan settings now (jitter i) old
        else old, by simp only [State.apply, recoveredScans, List.getElem?_mapIdx, found,
        Option.map_some], Or.inl ⟨?_, rfl, fun _ => ?_⟩⟩
      · split
        · rename_i stale
          exact rowMove_recovered now _ (jitter i) stale
        · exact .refl settings old
      · split
        · exact Or.inl rfl
        · exact .refl old
    | _ => simp [Op.execution] at event

/-! ## Sessions and cancellation -/

theorem Coherent.mono {run : Execution} {old new : ScanRun} (coherent : Coherent run old)
    (kept : old.cancelRequested = true → new.cancelRequested = true) : Coherent run new := by
  unfold Coherent at coherent ⊢
  cases phase : run.phase with
  | preparing held | staged held =>
    simp only [phase] at coherent ⊢
    exact fun seen => kept (coherent seen)
  | claimed | ended _ | closed => trivial

/-- An event leaves its session in agreement with the row it leaves. -/
theorem effect_coherent (settings : Settings) (reviews : List OpportunityState) {run : Execution}
    {stored : ScanRun} (coherent : Coherent run stored) (op : Op) :
    Coherent { run with phase := (effect settings reviews run stored op).phase }
      ((effect settings reviews run stored op).row.getD stored) := by
  cases op <;> simp only [effect]
  case noteClaim => exact coherent.mono id
  case heartbeat => split <;> exact coherent.mono id
  case failMissing now =>
    split
    · obtain eq | ⟨-, summary, reviewed, eq⟩ := failMissingEffect_cases run.lease stored
        (stored.opportunityId.bind fun o => reviews[o]?) now <;> rw [eq] <;> trivial
    · exact coherent
  case load =>
    split
    · exact id
    · exact coherent
  case start profile preliminary source now =>
    split
    · rename_i held phase
      obtain ⟨error, eq⟩ | ⟨flushed, review, -, -, ⟨-, eq⟩ | eq⟩ :=
        startEffect_cases run.lease held stored profile preliminary source now <;> rw [eq]
      · trivial
      · trivial
      · exact id
    · exact coherent
  case refresh =>
    split
    · exact id
    · exact coherent
  case stage stage now =>
    split
    · rename_i held phase
      obtain eq | ⟨-, eq⟩ := stageEffect_cases run.lease held stored stage now <;> rw [eq]
      · trivial
      · exact id
    · exact coherent
  case complete target reason cost now =>
    split
    · rename_i held phase
      obtain eq | eq | ⟨flushed, review, -, -, eq⟩ :=
        completeEffect_cases run.lease held stored target reason cost now <;> rw [eq]
      · simpa only [Coherent, phase, Effect.only, Option.getD_none] using coherent
      · trivial
      · trivial
    · exact coherent
  case cancelRun cost now =>
    split
    · rename_i held phase
      obtain eq | ⟨error, eq⟩ | ⟨-, review, eq⟩ := cancelEffect_cases held stored cost now <;> rw [eq]
      · simpa only [Coherent, phase, Effect.only, Option.getD_none] using coherent
      · trivial
      · trivial
    · exact coherent
  case fail error cost now =>
    split
    · rename_i held phase
      obtain ⟨raised, eq⟩ | ⟨review, eq⟩ := failEffect_cases held stored error cost now <;>
        rw [eq] <;> trivial
    · exact coherent
  case interrupt =>
    split
    · trivial
    · trivial
    · trivial
    · exact coherent
  case final =>
    split
    · split <;> trivial
    · exact coherent
  case crash => trivial
  all_goals exact coherent

theorem apply_length (settings : Settings) (s : State) (op : Op) :
    (s.apply settings op).scans.length = s.scans.length := by
  cases event : op.execution with
  | some e =>
    obtain same | ⟨run, stored, -, -, commits⟩ := apply_event settings s event
    · rw [same]
    · rw [commits]
      simp only [State.commit]
      split
      · rfl
      · exact List.length_set
  | none =>
    cases op with
    | requestCancel j now =>
      simp only [State.apply]
      split
      · rfl
      · exact List.length_set
    | cancelQueued j now =>
      simp only [State.apply, cancelQueuedScan]
      split
      · rfl
      · split
        · exact List.length_set
        · rfl
    | claim j worker token now seconds =>
      simp only [State.apply]
      split
      · rfl
      · rename_i scans claimed
        obtain ⟨scan, -, -, -, rfl⟩ := claimQueuedScan_some claimed
        exact List.length_set
    | recover staleAfter now jitter => exact List.length_mapIdx
    | _ => simp [Op.execution] at event

/-- The row before a commit, given the row after. -/
theorem apply_row_back {settings : Settings} {s : State} (coherent : AllCoherent s) (op : Op)
    {i : Nat} {new : ScanRun} (after : (s.apply settings op).scans[i]? = some new) :
    ∃ old, s.scans[i]? = some old ∧
      (RowMove settings old new ∧ (s.apply settings op).claims i = s.claims i ∧
          (op.execution = none → Calm old new) ∨
        Claims i op old new ∧ (s.apply settings op).claims i = s.claims i + 1) := by
  have bound : i < s.scans.length := by
    have := (List.getElem?_eq_some_iff.mp after).1
    rwa [apply_length] at this
  obtain ⟨row, there, moves⟩ := apply_row settings coherent op
    (List.getElem?_eq_getElem bound)
  rw [there] at after
  cases after
  exact ⟨_, List.getElem?_eq_getElem bound, moves⟩

theorem Claims.cancel {i : Nat} {op : Op} {old new : ScanRun} (claim : Claims i op old new) :
    new.cancelRequested = old.cancelRequested := by
  obtain ⟨worker, token, now, seconds, -, rfl⟩ := claim.op
  rfl

/-- The executions after a commit: those before, the one whose event it is
perhaps in a new phase, and a new one when a scan was claimed. -/
theorem apply_run_back {settings : Settings} {s : State} (op : Op) {e : Nat} {run : Execution}
    (after : (s.apply settings op).runs[e]? = some run) :
    s.runs[e]? = some run ∨
      (run.phase = .claimed ∧ ∃ old now seconds, (s.apply settings op).scans[run.lease.scanId]? =
        some (ScanRun.claim old run.lease.workerId run.lease.leaseToken now seconds)) ∨
      ∃ before stored, op.execution = some e ∧ s.runs[e]? = some before ∧
        s.scans[before.lease.scanId]? = some stored ∧
        run = { before with phase := (effect settings s.reviews before stored op).phase } ∧
        (s.apply settings op).scans =
          match (effect settings s.reviews before stored op).row with
          | none => s.scans
          | some row => s.scans.set before.lease.scanId row := by
  cases event : op.execution with
  | some j =>
    obtain same | ⟨before, stored, running, there, commits⟩ := apply_event settings s event
    · rw [same] at after
      exact Or.inl after
    · rw [commits] at after ⊢
      obtain ⟨rfl, rfl⟩ | ⟨-, stays⟩ := Table.getElem?_set_cases after
      · exact Or.inr (Or.inr ⟨before, stored, rfl, running, there, rfl, rfl⟩)
      · exact Or.inl stays
  | none =>
    cases op with
    | requestCancel j now =>
      simp only [State.apply] at after
      split at after <;> exact Or.inl after
    | cancelQueued j now => exact Or.inl after
    | recover staleAfter now jitter => exact Or.inl after
    | claim j worker token now seconds =>
      simp only [State.apply] at after ⊢
      split at after
      · exact Or.inl after
      · rename_i scans claimed
        obtain ⟨old, there, -, -, rfl⟩ := claimQueuedScan_some claimed
        by_cases last : e < s.runs.length
        · rw [List.getElem?_append_left last] at after
          exact Or.inl after
        · rw [List.getElem?_append_right (by omega)] at after
          have member := List.mem_of_getElem? after
          rw [List.mem_singleton] at member
          rw [member]
          refine Or.inr (Or.inl ⟨rfl, old, now, seconds, ?_⟩)
          exact List.getElem?_set_self (List.getElem?_eq_some_iff.mp there).1
    | _ => simp [Op.execution] at event

/-- Coherence is kept by every commit. -/
theorem AllCoherent.apply {settings : Settings} {s : State} (coherent : AllCoherent s) (op : Op) :
    AllCoherent (s.apply settings op) := by
  intro e run row running there
  obtain ⟨old, found, moves⟩ := apply_row_back coherent op there
  have kept : old.cancelRequested = true → row.cancelRequested = true := by
    intro requested
    rcases moves with ⟨moves, -⟩ | ⟨claim, -⟩
    · exact moves.cancel_kept requested
    · exact claim.cancel.trans requested
  obtain stays | ⟨claimed, -⟩ | ⟨before, stored, -, was, at_, rfl, scans⟩ := apply_run_back op running
  · exact (coherent e run old stays found).mono kept
  · simp only [Coherent, claimed]
  · have left := effect_coherent settings s.reviews
      (coherent e before stored was at_) op
    rw [scans] at there
    split at there
    · rename_i unwritten
      rw [unwritten] at left
      have same : stored = row := Option.some.inj (at_.symm.trans there)
      exact same ▸ left
    · rename_i new written
      rw [written] at left
      obtain ⟨-, rfl⟩ | ⟨differs, -⟩ := Table.getElem?_set_cases there
      · exact left
      · exact absurd rfl differs

/-- A commit hands out at most one lease, with a token of its own. -/
theorem apply_leases (settings : Settings) (s : State) (op : Op) :
    (s.apply settings op).leases = s.leases ∨
      ∃ i worker token now seconds, op = .claim i worker token now seconds ∧
        (s.apply settings op).leases = s.leases ++ [⟨i, worker, token⟩] := by
  cases event : op.execution with
  | some e =>
    obtain same | ⟨run, stored, running, -, commits⟩ := apply_event settings s event
    · exact Or.inl (by rw [same])
    · exact Or.inl (by rw [commits]; exact commit_leases running _)
  | none =>
    cases op with
    | requestCancel j now =>
      refine Or.inl ?_
      simp only [State.apply]
      split <;> rfl
    | cancelQueued j now => exact Or.inl rfl
    | recover staleAfter now jitter => exact Or.inl rfl
    | claim j worker token now seconds =>
      simp only [State.apply]
      split
      · exact Or.inl rfl
      · exact Or.inr ⟨j, worker, token, now, seconds, rfl, by simp [State.leases]⟩
    | _ => simp [Op.execution] at event

end RankRent.Worker
