import RankRent.Provider.SessionMoves
import RankRent.Worker.Attempts

/-!
# Who works on a row

Every session's copy is of the row of a planned request of its own scan, there is
one row for each planned request, and a lease that was handed on does not come
back.
-/

namespace RankRent.Provider

open CostControls

/-! ## Rows and planned requests -/

/-- A session's copy is of the row of a planned request of the scan. -/
structure CopyOf (s : Fleet) (scan i : Nat) (copy : ApiCall) : Prop where
  run : copy.scanRunId = some scan
  planned : ∃ call ∈ s.plan, call.scanRunId = scan ∧
    copy.plannedRequestId = some call.plannedRequestId
  stored : ∃ row, s.calls[i]? = some row ∧ row.scanRunId = copy.scanRunId ∧
    row.plannedRequestId = copy.plannedRequestId

/-- What a session decided on is still there to be done. -/
def Selection.Filed (s : Fleet) (site : CallSite) (hit : Bool) : Selection → Prop
  | .existing _ => hit = true
  | .retry i row => row.status.retryable = true ∧ CopyOf s site.scan i row
  | .insert call => call ∈ s.plan ∧ call.scanRunId = site.scan

/-- Where a request goes. -/
def RequestState.site : RequestState → Option CallSite
  | .idle => none
  | .selected site _ _ => some site
  | .taken a => some a.site

structure Fleet.Filed (s : Fleet) : Prop where
  unique : ∀ (i j : Nat) row other scan id, s.calls[i]? = some row → s.calls[j]? = some other →
    standsFor row scan id = true → standsFor other scan id = true → i = j
  shaped : ∀ e a, s.requests e = .taken a → a.Shaped
  taken : ∀ e a, s.requests e = .taken a → CopyOf s a.site.scan a.row a.seen
  selected : ∀ e site hit selection, s.requests e = .selected site hit selection →
    selection.Filed s site hit
  owner : ∀ e site, (s.requests e).site = some site →
    ∃ lease, s.queue.leases[e]? = some lease ∧ lease.scanId = site.scan

/-- Between requests only the rows matter. -/
theorem filed_of_idle {s : Fleet} (idle : ∀ e, s.requests e = .idle)
    (unique : ∀ (i j : Nat) row other scan id, s.calls[i]? = some row → s.calls[j]? = some other →
      standsFor row scan id = true → standsFor other scan id = true → i = j) : s.Filed where
  unique := unique
  shaped e a at_ := by rw [idle e] at at_; cases at_
  taken e a at_ := by rw [idle e] at at_; cases at_
  selected e site hit selection at_ := by rw [idle e] at at_; cases at_
  owner e site at_ := by rw [idle e] at at_; cases at_

section Moves
variable {settings : Settings} {s : Fleet} {op : FleetOp} {i : Nat} {old new : ApiCall}

theorem finish_identity (row : ApiCall) (record : CallRecord) :
    (row.finish record).scanRunId = row.scanRunId ∧
      (row.finish record).plannedRequestId = row.plannedRequestId ∧
      (row.finish record).attemptToken = row.attemptToken := by
  unfold ApiCall.finish
  split <;> exact ⟨rfl, rfl, rfl⟩

theorem settle_identity (row : ApiCall) (unknown : Bool) (now : DateTime) :
    (row.settle unknown now).scanRunId = row.scanRunId ∧
      (row.settle unknown now).plannedRequestId = row.plannedRequestId ∧
      (row.settle unknown now).attemptToken = row.attemptToken := by
  cases unknown <;> exact ⟨rfl, rfl, rfl⟩

theorem abandoned_identity (now : DateTime) (row : ApiCall) :
    (abandoned now row).scanRunId = row.scanRunId ∧
      (abandoned now row).plannedRequestId = row.plannedRequestId ∧
      (abandoned now row).attemptToken = row.attemptToken := by
  unfold abandoned ApiCall.abandon
  split <;> split <;> exact ⟨rfl, rfl, rfl⟩

theorem closedRow_identity (a : Attempt) (stored : ApiCall) (record : CallRecord)
    (q : FinishRequest) :
    (a.closedRow stored record q).scanRunId = stored.scanRunId ∧
      (a.closedRow stored record q).plannedRequestId = stored.plannedRequestId ∧
      (a.closedRow stored record q).attemptToken = stored.attemptToken := by
  obtain ⟨run, planned, token⟩ := finish_identity a.seen record
  obtain ⟨run', planned', token'⟩ := settle_identity (a.seen.finish record) q.providerOutcomeUnknown q.now
  unfold Attempt.closedRow
  split
  · simp only [ApiCall.flush, run, planned, token, written_unchanged, and_self]
  · simp only [closedRow, ApiCall.flush, run', planned', token', run, planned, token,
      written_unchanged, and_self]

/-- No commit changes what a row stands for. -/
theorem CallMove.identity (move : CallMove settings s op i old new) :
    new.scanRunId = old.scanRunId ∧ new.plannedRequestId = old.plannedRequestId := by
  cases move with
  | kept same => rw [same]; exact ⟨rfl, rfl⟩
  | reset _ _ _ _ is => subst is; constructor <;> simp [ApiCall.flush, ApiCall.retry]
  | reserved _ _ _ _ _ _ is => subst is; constructor <;> simp [ApiCall.flush, ApiCall.reserve]
  | submitted _ _ _ _ _ _ _ _ is => subst is; constructor <;> simp [ApiCall.flush, ApiCall.submit]
  | closed _ _ _ _ _ _ is =>
    obtain ⟨run, planned, -⟩ := closedRow_identity _ old _ _
    rw [is]
    exact ⟨run, planned⟩
  | abandoned now _ is =>
    obtain ⟨run, planned, -⟩ := abandoned_identity now old
    rw [is]
    exact ⟨run, planned⟩
  | resolved _ _ _ _ _ _ is => subst is; exact ⟨rfl, rfl⟩

/-- Only a reset gives a row another attempt token. -/
theorem CallMove.token (move : CallMove settings s op i old new) :
    new.attemptToken = old.attemptToken ∨
      ∃ e lease site hit row token force response now,
        op = .request e (.prepare token force response now) ∧ s.lease e = some lease ∧
        s.requests e = .selected site hit (.retry i row) ∧
        new.attemptToken = written row.attemptToken (some token) old.attemptToken := by
  cases move with
  | kept same => exact Or.inl (by rw [same])
  | @reset e lease site hit row token force response now event leased selected _ is =>
    refine Or.inr ⟨e, lease, site, hit, row, token, force, response, now, event, leased, selected, ?_⟩
    rw [is]
    rfl
  | reserved _ _ _ _ _ _ is => subst is; exact Or.inl (by simp [ApiCall.flush, ApiCall.reserve])
  | submitted _ _ _ _ _ _ _ _ is => subst is; exact Or.inl (by simp [ApiCall.flush, ApiCall.submit])
  | closed _ _ _ _ _ _ is => exact Or.inl (by rw [is]; exact (closedRow_identity _ old _ _).2.2)
  | abandoned now _ is => exact Or.inl (by rw [is]; exact (abandoned_identity now old).2.2)
  | resolved _ _ _ _ _ _ is => subst is; exact Or.inl rfl

theorem apply_plan (settings : Settings) (s : Fleet) (op : FleetOp) :
    (s.apply settings op).plan = s.plan := by
  cases op with
  | work op => rfl
  | reconcile staleBefore now => rfl
  | resolve i outcome actual note now =>
    simp only [Fleet.apply]
    split <;> rfl
  | request e event =>
    simp only [Fleet.apply]
    split <;> rfl

/-- The executions change by commits of the queue only. -/
theorem apply_queue (settings : Settings) (s : Fleet) (op : FleetOp) :
    (s.apply settings op).queue = s.queue ∨
      ∃ event, op = .work event ∧ (s.apply settings op).queue = s.queue.apply settings event := by
  cases op with
  | work event => exact Or.inr ⟨event, rfl, rfl⟩
  | reconcile staleBefore now => exact Or.inl rfl
  | resolve i outcome actual note now =>
    refine Or.inl ?_
    simp only [Fleet.apply]
    split <;> rfl
  | request e event =>
    refine Or.inl ?_
    simp only [Fleet.apply]
    split <;> rfl

theorem lease_kept (settings : Settings) (op : FleetOp) {e : Nat} {lease : ScanExecutionLease}
    (held : s.queue.leases[e]? = some lease) :
    (s.apply settings op).queue.leases[e]? = some lease := by
  obtain same | ⟨event, -, queue⟩ := apply_queue settings s op
  · rw [same]
    exact held
  · rw [queue]
    obtain same | ⟨i, worker, token, now, seconds, -, leases⟩ :=
      Worker.apply_leases settings s.queue event
    · rw [same]
      exact held
    · rw [leases, List.getElem?_append_left (List.getElem?_eq_some_iff.mp held).1]
      exact held

theorem lease_of_session {e : Nat} {lease : ScanExecutionLease} (leased : s.lease e = some lease) :
    s.queue.leases[e]? = some lease := by
  unfold Fleet.lease at leased
  split at leased
  · rename_i at_
    cases leased
    simp [Worker.State.leases, at_]
  · cases leased

end Moves

/-! ## Selections -/

section Selections
variable {plan : List ScanPlanCall} {calls : List ApiCall} {site : CallSite} {hit : Bool}

theorem matching_mem {call : ScanPlanCall} (member : call ∈ matching plan site) :
    call ∈ plan ∧ call.scanRunId = site.scan := by
  simp only [matching, List.mem_filter, decide_eq_true_eq] at member
  exact ⟨member.1, member.2.1⟩

theorem selectCall_cases {selection : Selection}
    (chosen : selectCall plan calls site hit = some selection) :
    match selection with
    | .existing _ => hit = true
    | .retry i row => calls[i]? = some row ∧ row.status.retryable = true ∧
        ∃ call ∈ plan, call.scanRunId = site.scan ∧
          standsFor row site.scan call.plannedRequestId = true
    | .insert call => call ∈ plan ∧ call.scanRunId = site.scan := by
  unfold selectCall at chosen
  split at chosen
  · split at chosen
    · rename_i cached
      obtain ⟨entry, -, rfl⟩ := Option.map_eq_some_iff.mp chosen
      exact cached
    · cases chosen
  · rename_i call planned
    have member := matching_mem (plannedCall_some planned).1
    split at chosen
    · rename_i row i found
      cases chosen
      obtain ⟨there, holds⟩ := firstRow_some found
      simp only [Bool.and_eq_true] at holds
      exact ⟨there, holds.2, call, member.1, member.2, holds.1⟩
    · cases chosen
      exact member

end Selections

section Filed
variable {settings : Settings} {s : Fleet}

theorem CopyOf.apply (shaped : ∀ e a, s.requests e = .taken a → a.Shaped) {scan i : Nat}
    {copy : ApiCall} (of : CopyOf s scan i copy) (op : FleetOp) :
    CopyOf (s.apply settings op) scan i copy where
  run := of.run
  planned := by
    rw [apply_plan]
    exact of.planned
  stored := by
    obtain ⟨row, there, run, planned⟩ := of.stored
    obtain ⟨new, after, move⟩ := apply_call settings shaped op there
    obtain ⟨sameRun, samePlanned⟩ := move.identity
    exact ⟨new, after, sameRun.trans run, samePlanned.trans planned⟩

theorem CopyOf.congr {scan i : Nat} {copy other : ApiCall} (of : CopyOf s scan i copy)
    (run : other.scanRunId = copy.scanRunId)
    (planned : other.plannedRequestId = copy.plannedRequestId) : CopyOf s scan i other where
  run := run.trans of.run
  planned := by
    rw [planned]
    exact of.planned
  stored := by
    rw [run, planned]
    exact of.stored

/-- A row prepared anew is a copy of what is stored. -/
theorem Fleet.Filed.prepared (filed : s.Filed) {op : FleetOp} {e : Nat} {site : CallSite}
    {selection : Selection} {p : Preparation} {i : Nat} {row : ApiCall}
    (selected : s.requests e = .selected site false selection)
    (commits : commitCall s.calls site p selection = some ((s.apply settings op).calls, i, row)) :
    CopyOf (s.apply settings op) site.scan i row ∧
      (p.cacheHit = false → (⟨site, i, row, none, false⟩ : Attempt).Shaped) := by
  have filed' := filed.selected e site false selection selected
  cases selection with
  | existing j => cases filed'
  | retry j copy =>
    obtain ⟨-, of⟩ := filed'
    obtain ⟨stored, there, rfl, rfl, left⟩ := commitCall_retry commits
    refine ⟨(of.apply filed.shaped op).congr rfl rfl, fun miss => ⟨fun _ => ?_, nofun⟩⟩
    simp [ApiCall.retry, Preparation.attemptState, Preparation.status, miss]
  | insert call =>
    obtain ⟨-, rfl, rfl, left⟩ := commitCall_insert commits
    refine ⟨⟨rfl, ?_, ?_⟩, fun miss => ⟨fun _ => ?_, nofun⟩⟩
    · rw [apply_plan]
      exact ⟨call, filed'.1, filed'.2, rfl⟩
    · rw [left, List.getElem?_concat_length]
      exact ⟨_, rfl, rfl, rfl⟩
    · simp [ScanPlanCall.row, ApiCall.new, Preparation.attemptState, Preparation.status, miss]

theorem CallMove.standsFor {op : FleetOp} {i : Nat} {old new : ApiCall}
    (move : CallMove settings s op i old new) (scan : Nat) (id : String) :
    standsFor new scan id = standsFor old scan id := by
  obtain ⟨run, planned⟩ := move.identity
  unfold Provider.standsFor
  rw [run, planned]

/-- A selection was made before, or is made now on current rows. -/
theorem selected_back (shaped : ∀ e a, s.requests e = .taken a → a.Shaped) {op : FleetOp} {e : Nat}
    {site : CallSite} {hit : Bool} {selection : Selection}
    (after : (s.apply settings op).requests e = .selected site hit selection) :
    s.requests e = .selected site hit selection ∨
      ∃ lease, s.lease e = some lease ∧ site.scan = lease.scanId ∧
        selectCall s.plan s.calls site hit = some selection ∧ s.requests e = .idle ∧
        (s.apply settings op).calls = s.calls := by
  obtain same | ⟨lease, event, db, rfl, leased, move, calls⟩ :=
    apply_requests settings shaped op e
  · rw [same] at after
    exact Or.inl after
  · rw [after] at move
    generalize at_ : s.requests e = before at move
    generalize is : RequestState.selected site hit selection = state at move
    cases move with
    | waits => exact Or.inl rfl
    | refused => cases is
    | selects scan chosen =>
      cases is
      exact Or.inr ⟨lease, leased, scan, chosen, rfl, calls⟩
    | @prepares _ hit =>
      cases hit <;> cases is
    | raises => cases is
    | reserves => cases is
    | submits => cases is
    | closes => cases is

theorem Fleet.Filed.apply (filed : s.Filed) (op : FleetOp) : (s.apply settings op).Filed where
  unique := by
    intro i j row other scan id at_ there stands stands'
    obtain ⟨old, found, move⟩ | ⟨e, site, hit, call, p, inserted, rfl, rfl⟩ :=
        apply_call_back filed.shaped op at_ <;>
      obtain ⟨old', found', move'⟩ | ⟨e', site', hit', call', p', inserted', rfl, rfl⟩ :=
        apply_call_back filed.shaped op there
    · rw [move.standsFor] at stands
      rw [move'.standsFor] at stands'
      exact filed.unique i j old old' scan id found found' stands stands'
    · rw [move.standsFor] at stands
      obtain ⟨run, planned⟩ := standsFor_iff.mp stands'
      cases run
      cases planned
      rw [inserted'.free old (List.mem_of_getElem? found)] at stands
      cases stands
    · rw [move'.standsFor] at stands'
      obtain ⟨run, planned⟩ := standsFor_iff.mp stands
      cases run
      cases planned
      rw [inserted.free old' (List.mem_of_getElem? found')] at stands'
      cases stands'
    · rfl
  shaped := by
    intro e a after
    obtain ⟨b, before, continues⟩ | ⟨lease, site, selection, token, force, response, now, i, row, rfl,
        leased, selected, commits, rfl⟩ := taken_back filed.shaped after
    · exact continues.shaped (filed.shaped e b before)
    · exact (filed.prepared selected commits).2 rfl
  taken := by
    intro e a after
    obtain ⟨b, before, continues⟩ | ⟨lease, site, selection, token, force, response, now, i, row, rfl,
        leased, selected, commits, rfl⟩ := taken_back filed.shaped after
    · rw [continues.site, continues.row]
      exact ((filed.taken e b before).apply filed.shaped op).congr continues.run continues.planned
    · exact (filed.prepared selected commits).1
  selected := by
    intro e site hit selection after
    obtain before | ⟨lease, -, -, chosen, -, calls⟩ := selected_back filed.shaped after
    · have filed' := filed.selected e site hit selection before
      cases selection with
      | existing i => exact filed'
      | retry i row => exact ⟨filed'.1, filed'.2.apply filed.shaped op⟩
      | insert call =>
        unfold Selection.Filed
        rw [apply_plan]
        exact filed'
    · have cases := selectCall_cases chosen
      cases selection with
      | existing i => exact cases
      | retry i row =>
        obtain ⟨there, failed, call, member, scan, stands⟩ := cases
        obtain ⟨run, planned⟩ := standsFor_iff.mp stands
        have of : CopyOf s site.scan i row :=
          ⟨run, ⟨call, member, scan, planned⟩, row, there, rfl, rfl⟩
        exact ⟨failed, of.apply filed.shaped op⟩
      | insert call =>
        unfold Selection.Filed
        rw [apply_plan]
        exact cases
  owner := by
    intro e site at_
    have owned (before : (s.requests e).site = some site) :
        ∃ lease, (s.apply settings op).queue.leases[e]? = some lease ∧ lease.scanId = site.scan := by
      obtain ⟨lease, held, scan⟩ := filed.owner e site before
      exact ⟨lease, lease_kept settings op held, scan⟩
    generalize after : (s.apply settings op).requests e = state at at_
    cases state with
    | idle => cases at_
    | selected site' hit selection =>
      cases at_
      obtain before | ⟨lease, leased, scan, -⟩ := selected_back filed.shaped after
      · exact owned (by rw [before]; rfl)
      · exact ⟨lease, lease_kept settings op (lease_of_session leased), scan.symm⟩
    | taken a =>
      cases at_
      obtain ⟨b, before, continues⟩ | ⟨lease, site, selection, token, force, response, now, i, row,
          rfl, leased, selected, commits, rfl⟩ := taken_back filed.shaped after
      · exact owned (by rw [before, RequestState.site, continues.site])
      · exact owned (by rw [selected]; rfl)

end Filed

/-! ## Leases -/

/-- A scan that was claimed again does not carry an earlier lease. -/
def HandedOn (s : Worker.State) : Prop :=
  ∀ (e e' : Nat) lease lease' row, s.leases[e]? = some lease → s.leases[e']? = some lease' → e < e' →
    lease.scanId = lease'.scanId → s.scans[lease.scanId]? = some row →
    row.leaseToken ≠ some lease.leaseToken

theorem HandedOn.apply {settings : Settings} {s : Worker.State} (handedOn : HandedOn s)
    (coherent : Worker.AllCoherent s) {op : Worker.Op} (fresh : Worker.FreshToken s op) :
    HandedOn (s.apply settings op) := by
  intro e e' lease lease' row held held' order same there
  obtain ⟨old, found, moves⟩ := Worker.apply_row_back coherent op there
  obtain leases | ⟨i, worker, token, now, seconds, rfl, leases⟩ := Worker.apply_leases settings s op
  · rw [leases] at held held'
    have before := handedOn e e' lease lease' old held held' order same found
    rcases moves with ⟨moves, -⟩ | ⟨-, more⟩
    · rcases moves.token with free | kept
      · rw [free]; exact nofun
      · rw [kept]; exact before
    · simp only [Worker.State.claims, leases] at more
      omega
  · have early : s.leases[e]? = some lease := by
      have bound := (List.getElem?_eq_some_iff.mp held').1
      rw [leases, List.length_append, List.length_singleton] at bound
      rw [leases, List.getElem?_append_left (by omega)] at held
      exact held
    have unused := fresh lease (List.mem_of_getElem? early)
    rcases moves with ⟨moves, unclaimed, -⟩ | ⟨claim, -⟩
    · -- The claim is of another scan, so both leases were handed out before.
      have late : s.leases[e']? = some lease' := by
        rw [leases] at held'
        by_cases bound : e' < s.leases.length
        · rwa [List.getElem?_append_left bound] at held'
        · rw [List.getElem?_append_right (by omega)] at held'
          have member := List.mem_of_getElem? held'
          rw [List.mem_singleton] at member
          subst member
          simp [Worker.State.claims, leases, same] at unclaimed
      have before := handedOn e e' lease lease' old early late order same found
      rcases moves.token with free | kept
      · rw [free]; exact nofun
      · rw [kept]; exact before
    · obtain ⟨_, _, _, _, is, rfl⟩ := claim.op
      cases is
      intro taken
      exact unused (Option.some.inj taken).symm

/-- An execution whose scan was claimed again after it. -/
def Superseded (s : Fleet) (e scan : Nat) : Prop :=
  ∃ e' lease, e < e' ∧ s.queue.leases[e']? = some lease ∧ lease.scanId = scan

theorem Superseded.apply {s : Fleet} {e scan : Nat} (superseded : Superseded s e scan)
    (settings : Settings) (op : FleetOp) : Superseded (s.apply settings op) e scan := by
  obtain ⟨e', lease, order, held, same⟩ := superseded
  exact ⟨e', lease, order, lease_kept settings op held, same⟩

/-- The scan row carries the lease. -/
def Carries (s : Fleet) (lease : ScanExecutionLease) : Prop :=
  ∃ scan ∈ s.queue.scans[lease.scanId]?, scan.leaseToken = some lease.leaseToken

theorem Superseded.not_carried {s : Fleet} (handedOn : HandedOn s.queue) {e : Nat}
    {lease : ScanExecutionLease} (held : s.queue.leases[e]? = some lease)
    (superseded : Superseded s e lease.scanId) : ¬ Carries s lease := by
  rintro ⟨scan, there, carried⟩
  obtain ⟨e', lease', order, held', same⟩ := superseded
  exact handedOn e e' lease lease' scan held held' order same.symm there carried

theorem carries_of_held {s : Fleet} {lease : ScanExecutionLease} {now : DateTime}
    (held : LeaseHeld s.db (some lease) now) : Carries s lease := by
  obtain ⟨scan, there, current⟩ := assertCurrentScanLease_ok.mp (held lease rfl)
  exact ⟨scan, there, (ScanRun.leaseCurrent_iff.mp current).2.2.1⟩

end RankRent.Provider
