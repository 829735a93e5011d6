import RankRent.CostControls.Effects
import RankRent.Provider.CallRows
import RankRent.Worker.System

/-!
# What recovery may touch

The two stale passes of `recover_stale_scans` over provider attempts: one by the
age of an attempt, whoever owns it, and one for each scan found stale.
-/

namespace RankRent

/-- The attempt states a stale pass selects. -/
def ApiCall.openAttempt (row : ApiCall) : Bool :=
  row.attemptState = .prepared || row.attemptState = .reserved || row.attemptState = .inFlight

/-- The scan is running under a current lease: not expired, and its heartbeat is
not older than the cutoff. -/
def ScanRun.alive (scan : ScanRun) (now cutoff : DateTime) : Bool :=
  scan.status = .running &&
    (match scan.leaseExpiresAt with
      | none => false
      | some expires => now ≤ expires) &&
    match scan.heartbeatAt with
    | none => false
    | some beat => cutoff ≤ beat

namespace Worker
open CostControls

/-- The scan that owns an attempt is running under a current lease. -/
def OwnerAlive (db : Database) (now cutoff : DateTime) (row : ApiCall) : Prop :=
  ∃ (i : Nat) (scan : ScanRun), row.scanRunId = some i ∧ db.scans[i]? = some scan ∧ scan.alive now cutoff = true

/-- Recovery leaves the attempts of living scans alone. -/
def SparesLiving (settings : Settings) (staleAfter : ℚ) (now : DateTime) (jitter : Nat → ℚ)
    (db : Database) : Prop :=
  ∀ (i : Nat) row, db.calls[i]? = some row → row.openAttempt = true →
    OwnerAlive db now (now - staleAfter) row →
    (recoverStaleScans settings staleAfter now jitter db).calls[i]? = some row

/-- No attempt of a living scan was prepared before the cutoff. -/
def NoSlowAttempt (staleAfter : ℚ) (now : DateTime) (db : Database) : Prop :=
  ∀ row ∈ db.calls, row.openAttempt = true → (∃ started ∈ row.startedAt, started < now - staleAfter) →
    ¬ OwnerAlive db now (now - staleAfter) row

theorem alive_not_stale {scan : ScanRun} {now cutoff : DateTime}
    (alive : scan.alive now cutoff = true) : staleScan now cutoff scan = false := by
  simp only [ScanRun.alive, Bool.and_eq_true] at alive
  obtain ⟨⟨-, lease⟩, beat⟩ := alive
  unfold staleScan
  cases expires : scan.leaseExpiresAt with
  | none => simp [expires] at lease
  | some t =>
    cases beats : scan.heartbeatAt with
    | none => simp [beats] at beat
    | some b =>
      simp only [expires, decide_eq_true_eq] at lease
      simp only [beats, decide_eq_true_eq] at beat
      simp [lease, beat]

theorem staleAttempt_iff {before : DateTime} {scan : Option Nat} {row : ApiCall} :
    staleAttempt before scan row = true ↔ row.openAttempt = true ∧
      (∃ started ∈ row.startedAt, started < before) ∧ ∀ i ∈ scan, row.scanRunId = some i := by
  unfold staleAttempt ApiCall.openAttempt
  cases row.startedAt <;> cases scan <;> simp [and_assoc]

theorem abandoned_closed (now : DateTime) (row : ApiCall) :
    (abandoned now row).openAttempt = false := by
  unfold abandoned ApiCall.abandon
  split <;> simp [ApiCall.openAttempt]

theorem not_staleAttempt_of_closed {before : DateTime} {scan : Option Nat} {row : ApiCall}
    (closed : row.openAttempt = false) : staleAttempt before scan row = false := by
  refine Bool.eq_false_iff.mpr fun stale => ?_
  rw [(staleAttempt_iff.mp stale).1] at closed
  cases closed

/-- One scan of the recovery loop changes none but open attempts of that scan. -/
theorem recoverScan_keeps (settings : Settings) (now : DateTime) (jitter : Nat → ℚ)
    {db : Database} {i j : Nat} {row : ApiCall} (found : db.calls[i]? = some row)
    (apart : row.openAttempt = false ∨ row.scanRunId ≠ some j) :
    (recoverScan settings now jitter db j).calls[i]? = some row := by
  unfold recoverScan
  split
  · exact found
  · simp only [reconcileStaleApiCallAttempts_calls, found, Option.map_some]
    have untouched : staleAttempt (now + 1 / 1000000) (some j) row = false := by
      rcases apart with closed | other
      · exact not_staleAttempt_of_closed closed
      · refine Bool.eq_false_iff.mpr fun stale => ?_
        exact other ((staleAttempt_iff.mp stale).2.2 j rfl)
    rw [untouched]
    rfl

theorem recoverScans_keeps (settings : Settings) (now : DateTime) (jitter : Nat → ℚ)
    {ids : List Nat} {db : Database} {i : Nat} {row : ApiCall} (found : db.calls[i]? = some row)
    (apart : row.openAttempt = false ∨ ∀ j ∈ ids, row.scanRunId ≠ some j) :
    (ids.foldl (recoverScan settings now jitter) db).calls[i]? = some row := by
  induction ids generalizing db with
  | nil => exact found
  | cons j ids ih =>
    rw [List.foldl_cons]
    refine ih (recoverScan_keeps settings now jitter found ?_) ?_
    · exact apart.imp_right fun others => others j List.mem_cons_self
    · exact apart.imp_right fun others k member => others k (List.mem_cons_of_mem _ member)

/-- An attempt that is open and old enough never keeps its row. -/
theorem slow_attempt_changed (settings : Settings) {staleAfter : ℚ} {now : DateTime}
    (jitter : Nat → ℚ) {db : Database} {i : Nat} {row : ApiCall}
    (found : db.calls[i]? = some row)
    (slow : staleAttempt (now - staleAfter) none row = true) :
    (recoverStaleScans settings staleAfter now jitter db).calls[i]? = some (abandoned now row) := by
  unfold recoverStaleScans recoverScans
  refine recoverScans_keeps settings now jitter ?_ (Or.inl (abandoned_closed now row))
  rw [reconcileStaleApiCallAttempts_calls, found, Option.map_some, slow]
  rfl

/-- An attempt of a living scan survives unless it is old enough. -/
theorem living_attempt_kept (settings : Settings) {staleAfter : ℚ} {now : DateTime}
    (jitter : Nat → ℚ) {db : Database} {i : Nat} {row : ApiCall}
    (found : db.calls[i]? = some row) (alive : OwnerAlive db now (now - staleAfter) row)
    (young : staleAttempt (now - staleAfter) none row = false) :
    (recoverStaleScans settings staleAfter now jitter db).calls[i]? = some row := by
  obtain ⟨j, scan, owner, stored, living⟩ := alive
  unfold recoverStaleScans recoverScans
  refine recoverScans_keeps settings now jitter ?_ (Or.inr fun k member => ?_)
  · rw [reconcileStaleApiCallAttempts_calls, found, Option.map_some, young]
    rfl
  · rintro same
    obtain rfl : j = k := Option.some.inj (owner.symm.trans same)
    simp only [staleScans, List.mem_filter, reconcileStaleApiCallAttempts_scans, stored] at member
    rw [alive_not_stale living] at member
    cases member.2

/-- Recovery leaves the attempts of living scans alone exactly if none of them
was prepared before the cutoff. -/
theorem recovery_spares_living_iff (settings : Settings) (staleAfter : ℚ) (now : DateTime)
    (jitter : Nat → ℚ) (db : Database) :
    SparesLiving settings staleAfter now jitter db ↔ NoSlowAttempt staleAfter now db := by
  constructor
  · intro spares row member opened slow alive
    obtain ⟨i, bound, rfl⟩ := List.getElem_of_mem member
    have found : db.calls[i]? = some db.calls[i] := List.getElem?_eq_getElem bound
    have kept := spares i _ found opened alive
    have stale : staleAttempt (now - staleAfter) none db.calls[i] = true :=
      staleAttempt_iff.mpr ⟨opened, slow, by simp⟩
    rw [slow_attempt_changed settings jitter found stale] at kept
    have closed := abandoned_closed now db.calls[i]
    rw [Option.some.inj kept, opened] at closed
    cases closed
  · intro none i row found opened alive
    refine living_attempt_kept settings jitter found alive (Bool.eq_false_iff.mpr fun stale => ?_)
    obtain ⟨-, slow, -⟩ := staleAttempt_iff.mp stale
    exact none row (List.mem_of_getElem? found) opened slow alive

/-- A request sent at 0 and still in flight at 35, its scan's last heartbeat at
34 and the lease good until 64. -/
def slowRequest : Database where
  usage := []
  calls := [(((ApiCall.new (some 0) (some "req-001") "dataforseo" "serp" "k" 1
    ⟨false, false, "a", none, none, 0⟩).reserve 0 .testing 1).submit 0)]
  scans := [((ScanRun.enqueue 0 .manualAsync 0 3).claim "w1" "t1" 0 30).heartbeat 34 30]
  qualifications := []
  reconciliations := []

/-- With the default `scan_worker_stale_after_seconds` of 30 the request is
written off while its worker waits for it. -/
theorem slow_request_written_off :
    ¬ SparesLiving Settings.live 30 35 (fun _ => 0) slowRequest := by
  intro spares
  have kept := spares 0 _ rfl (by decide) ⟨0, _, rfl, rfl, by decide +kernel⟩
  revert kept
  decide +kernel

end Worker

end RankRent
