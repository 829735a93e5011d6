import RankRent.Worker.Commits

/-!
# Attempts of a scan

The bound on the number of claims of a scan, and the states no claim leaves, in
every run of the workers.
-/

namespace RankRent.Worker

/-! ## The invariant of a row -/

/-- What the queue columns of a scan and the number of its claims always
satisfy. -/
structure Counted (settings : Settings) (row : ScanRun) (claims : Nat) : Prop where
  queued : row.status = .queued → row.leaseToken = none ∧ row.retryCount < row.attemptLimit settings ∧
    claims ≤ row.retryCount
  running : row.status = .running → row.leaseToken.isSome
  leased : row.leaseToken.isSome → row.retryCount < row.attemptLimit settings ∧
    claims ≤ row.retryCount + 1
  bounded : claims ≤ row.attemptLimit settings
  cancelled : row.status = .cancelled → row.cancelRequested = true
  completed : row.status = .completed → row.leaseToken = none
  quarantined : row.status = .quarantined → row.attemptLimit settings ≤ row.retryCount

theorem attemptLimit_eq {settings : Settings} {old new : ScanRun}
    (limit : new.maxAttempts = old.maxAttempts) :
    new.attemptLimit settings = old.attemptLimit settings := by
  unfold ScanRun.attemptLimit
  rw [limit]

/-- A failed attempt is counted only below the limit. -/
theorem Counted.below {settings : Settings} {row : ScanRun} {claims : Nat}
    (counted : Counted settings row claims)
    (from_ : row.status = .running ∨ row.status = .failed ∧ row.leaseToken.isSome) :
    row.retryCount < row.attemptLimit settings ∧ claims ≤ row.retryCount + 1 := by
  rcases from_ with running | ⟨-, held⟩
  · exact counted.leased (counted.running running)
  · exact counted.leased held

/-- A commit that counts no attempt and gives the row to nobody new. -/
theorem Counted.uncounted {settings : Settings} {old new : ScanRun} {claims : Nat}
    (counted : Counted settings old claims) (retries : new.retryCount = old.retryCount)
    (limit : new.maxAttempts = old.maxAttempts)
    (token : new.leaseToken = old.leaseToken ∨ new.leaseToken = none)
    (queued : new.status = .queued → old.status = .queued)
    (running : new.status = .running → new.leaseToken.isSome)
    (cancelled : new.status = .cancelled → new.cancelRequested = true)
    (completed : new.status = .completed → new.leaseToken = none)
    (quarantined : new.status = .quarantined → old.status = .quarantined) :
    Counted settings new claims := by
  have limit : new.attemptLimit settings = old.attemptLimit settings := attemptLimit_eq limit
  refine ⟨fun status => ?_, running, fun held => ?_, ?_, cancelled, completed, fun status => ?_⟩
  · obtain ⟨free, below, claims_le⟩ := counted.queued (queued status)
    rw [retries, limit]
    exact ⟨token.elim (fun same => same.trans free) id, below, claims_le⟩
  · rw [retries, limit]
    rcases token with same | none
    · exact counted.leased (same ▸ held)
    · rw [none] at held
      cases held
  · rw [limit]
    exact counted.bounded
  · rw [retries, limit]
    exact counted.quarantined (quarantined status)

theorem Counted.move {settings : Settings} {old new : ScanRun} {claims : Nat}
    (counted : Counted settings old claims) (moves : RowMove settings old new) :
    Counted settings new claims := by
  cases moves with
  | kept same status =>
    refine counted.uncounted same.retries same.limit (Or.inl same.token) ?_ ?_ ?_ ?_ ?_ <;>
      rw [status]
    · exact id
    · rw [same.token]; exact counted.running
    · rw [same.cancel]; exact counted.cancelled
    · rw [same.token]; exact counted.completed
    · exact id
  | flagged worker token retries limit status cancel =>
    refine counted.uncounted retries limit (Or.inl token) ?_ ?_ ?_ ?_ ?_ <;> rw [status]
    · exact id
    · rw [token]; exact counted.running
    · exact fun _ => cancel
    · rw [token]; exact counted.completed
    · exact id
  | cancelled token retries limit status cancel =>
    refine counted.uncounted retries limit (Or.inr token) ?_ ?_ ?_ ?_ ?_ <;> rw [status]
    · exact nofun
    · exact nofun
    · exact fun _ => cancel
    · exact nofun
    · exact nofun
  | counted token retries limit cancel from_ status =>
    obtain ⟨below, claims_le⟩ := counted.below from_
    have limit : new.attemptLimit settings = old.attemptLimit settings := attemptLimit_eq limit
    rw [← limit] at below status
    split at status
    · rename_i reached
      exact ⟨by simp [status], by simp [status], by simp [token], by omega, by simp [status],
        by simp [status], fun _ => reached⟩
    · exact ⟨fun _ => ⟨token, by omega, by omega⟩, by simp [status], by simp [token], by omega,
        by simp [status], by simp [status], by simp [status]⟩
  | released released held status =>
    refine counted.uncounted released.retries released.limit (Or.inr released.token) ?_ ?_ ?_
      (fun _ => released.token) ?_ <;> rcases status with failed | ⟨status, finished⟩
    · rw [failed]; exact nofun
    · rw [status]; exact id
    · rw [failed]; exact nofun
    · intro running
      rw [status] at running
      simp [running, ScanStatus.terminal] at finished
    · rw [failed]; exact nofun
    · rw [status, released.cancel]; exact counted.cancelled
    · rw [failed]; exact nofun
    · rw [status]; exact id
  | overwritten same status =>
    refine counted.uncounted same.retries same.limit (Or.inl same.token) ?_ ?_ ?_ ?_ ?_ <;>
      rcases status with status | status | ⟨status, requested⟩ <;> rw [status]
    · exact id
    · exact nofun
    · exact nofun
    · rw [same.token]; exact counted.running
    · exact nofun
    · exact nofun
    · rw [same.cancel]; exact counted.cancelled
    · exact nofun
    · exact fun _ => same.cancel.trans requested
    · rw [same.token]; exact counted.completed
    · exact nofun
    · exact nofun
    · exact id
    · exact nofun
    · exact nofun
  | started same held status =>
    refine counted.uncounted same.retries same.limit (Or.inl same.token) ?_ ?_ ?_ ?_ ?_ <;>
      rcases status with status | ⟨status, requested⟩ <;> rw [status]
    · exact nofun
    · exact nofun
    · exact fun _ => same.token ▸ held
    · exact nofun
    · exact nofun
    · exact fun _ => same.cancel.trans requested
    · exact nofun
    · exact nofun
    · exact nofun
    · exact nofun

/-- A claim adds one to a count that was within the attempts made. -/
theorem Counted.claim {settings : Settings} {i : Nat} {op : Op} {old new : ScanRun} {claims : Nat}
    (counted : Counted settings old claims) (claim : Claims i op old new) :
    Counted settings new (claims + 1) := by
  obtain ⟨worker, token, now, seconds, -, rfl⟩ := claim.op
  obtain ⟨-, below, claims_le⟩ := counted.queued claim.queued
  have limit : (old.claim worker token now seconds).attemptLimit settings =
      old.attemptLimit settings := attemptLimit_eq rfl
  refine ⟨nofun, fun _ => rfl, fun _ => ?_, ?_, nofun, nofun, nofun⟩
  · rw [limit]
    exact ⟨below, Nat.succ_le_succ claims_le⟩
  · rw [limit]
    omega

/-! ## Scans no claim takes up again -/

/-- The scan was cancelled, used its attempts up, or ended with its lease given
up. -/
def Done (settings : Settings) (row : ScanRun) : Prop :=
  row.cancelRequested = true ∨ row.attemptLimit settings ≤ row.retryCount ∨
    row.leaseToken = none ∧ row.status ≠ .queued

theorem Done.move {settings : Settings} {old new : ScanRun} {claims : Nat}
    (done : Done settings old) (counted : Counted settings old claims)
    (moves : RowMove settings old new) : Done settings new := by
  rcases done with requested | reached | ⟨free, finished⟩
  · exact Or.inl (moves.cancel_kept requested)
  · obtain ⟨retries, limit⟩ := moves.retries_le
    have limit : new.attemptLimit settings = old.attemptLimit settings := attemptLimit_eq limit
    exact Or.inr (Or.inl (by omega))
  · have unheld : ¬ old.leaseToken.isSome := by simp [free]
    cases moves with
    | kept same status =>
      exact Or.inr (Or.inr ⟨same.token.trans free, by rw [status]; exact finished⟩)
    | flagged _ _ _ _ _ cancel => exact Or.inl cancel
    | cancelled _ _ _ _ cancel => exact Or.inl cancel
    | counted _ _ _ _ from_ _ =>
      rcases from_ with running | ⟨-, held⟩
      · exact absurd (counted.running running) unheld
      · exact absurd held unheld
    | released _ held _ => exact absurd held unheld
    | overwritten same status =>
      refine Or.inr (Or.inr ⟨same.token.trans free, ?_⟩)
      rcases status with status | status | ⟨status, -⟩ <;> rw [status]
      · exact finished
      · exact nofun
      · exact nofun
    | started _ held _ => exact absurd held unheld

theorem Done.not_claimed {settings : Settings} {i : Nat} {op : Op} {old new : ScanRun} {claims : Nat}
    (done : Done settings old) (counted : Counted settings old claims) : ¬ Claims i op old new := by
  intro claim
  rcases done with requested | reached | ⟨-, finished⟩
  · rw [claim.wanted] at requested
    cases requested
  · obtain ⟨-, below, -⟩ := counted.queued claim.queued
    omega
  · exact finished claim.queued

/-! ## Runs of the queue -/

/-- `uuid.uuid4().hex` gives every claim a token of its own. -/
def FreshToken (s : State) : Op → Prop
  | .claim _ _ token _ _ => ∀ lease ∈ s.leases, lease.leaseToken ≠ token
  | _ => True

/-- Scans as they are queued, none of them claimed yet. -/
structure State.Queued (settings : Settings) (s : State) : Prop where
  runs : s.runs = []
  scans : ∀ row ∈ s.scans, row.status = .queued ∧ row.leaseToken = none ∧
    row.retryCount < row.attemptLimit settings

def Step (settings : Settings) (s : State) (op : Op) (t : State) : Prop := t = s.apply settings op

structure QueueInvariant (settings : Settings) (s : State) : Prop where
  coherent : AllCoherent s
  counted : ∀ (i : Nat) row, s.scans[i]? = some row → Counted settings row (s.claims i)
  tokens : (s.leases.map ScanExecutionLease.leaseToken).Nodup

theorem State.Queued.invariant {settings : Settings} {s : State} (queued : s.Queued settings) :
    QueueInvariant settings s where
  coherent := by
    intro e run row running
    rw [queued.runs] at running
    cases running
  counted := by
    intro i row found
    obtain ⟨status, free, below⟩ := queued.scans row (List.mem_of_getElem? found)
    have none_claimed : s.claims i = 0 := by simp [State.claims, State.leases, queued.runs]
    rw [none_claimed]
    refine ⟨fun _ => ⟨free, below, Nat.zero_le _⟩, ?_, ?_, Nat.zero_le _, ?_, ?_, ?_⟩
    · rw [status]
      intro impossible
      cases impossible
    · rw [free]
      intro impossible
      cases impossible
    · rw [status]
      intro impossible
      cases impossible
    · rw [status]
      intro impossible
      cases impossible
    · rw [status]
      intro impossible
      cases impossible
  tokens := by simp [State.leases, queued.runs]

theorem QueueInvariant.apply {settings : Settings} {s : State} (inv : QueueInvariant settings s)
    {op : Op} (fresh : FreshToken s op) : QueueInvariant settings (s.apply settings op) where
  coherent := inv.coherent.apply op
  counted := by
    intro i row after
    obtain ⟨old, found, ⟨moves, same, -⟩ | ⟨claim, more⟩⟩ := apply_row_back inv.coherent op after
    · rw [same]
      exact (inv.counted i old found).move moves
    · rw [more]
      exact (inv.counted i old found).claim claim
  tokens := by
    obtain same | ⟨i, worker, token, now, seconds, rfl, leases⟩ := apply_leases settings s op
    · rw [same]
      exact inv.tokens
    · rw [leases, List.map_append]
      refine List.nodup_append.mpr ⟨inv.tokens, by simp, ?_⟩
      intro used member other single
      obtain ⟨lease, handed, rfl⟩ := List.mem_map.mp member
      rw [List.map_singleton, List.mem_singleton] at single
      rw [single]
      exact fresh lease handed

/-- No two executions have one token. -/
theorem QueueInvariant.token_inj {settings : Settings} {s : State} (inv : QueueInvariant settings s)
    {e e' : Nat} {lease lease' : ScanExecutionLease} (handed : s.leases[e]? = some lease)
    (handed' : s.leases[e']? = some lease') (same : lease.leaseToken = lease'.leaseToken) : e = e' := by
  have bound : e < (s.leases.map ScanExecutionLease.leaseToken).length := by
    rw [List.length_map]
    exact (List.getElem?_eq_some_iff.mp handed).1
  refine (List.getElem?_inj bound inv.tokens).mp ?_
  rw [List.getElem?_map, List.getElem?_map, handed, handed', Option.map_some, Option.map_some, same]

theorem queueInvariant_of_run {settings : Settings} {start s : State}
    (queued : start.Queued settings) (run : Runs.Reaches FreshToken (Step settings) start s) :
    QueueInvariant settings s := by
  refine run.invariant (I := QueueInvariant settings) ?_ queued.invariant
  rintro s op t inv fresh rfl
  exact inv.apply fresh

/-- Once done, a scan is claimed no more. -/
theorem Done.claims_eq {settings : Settings} {s t : State} {i : Nat} {row : ScanRun}
    (inv : QueueInvariant settings s) (found : s.scans[i]? = some row) (done : Done settings row)
    (run : Runs.Reaches FreshToken (Step settings) s t) : t.claims i = s.claims i := by
  have kept : QueueInvariant settings t ∧ t.claims i = s.claims i ∧
      ∃ after, t.scans[i]? = some after ∧ Done settings after := by
    refine run.invariant (I := fun t => QueueInvariant settings t ∧ t.claims i = s.claims i ∧
      ∃ after, t.scans[i]? = some after ∧ Done settings after) ?_ ⟨inv, rfl, row, found, done⟩
    rintro u op v ⟨inv, same, old, there, done⟩ fresh rfl
    obtain ⟨new, after, ⟨moves, kept, -⟩ | ⟨claim, -⟩⟩ := apply_row settings inv.coherent op there
    · exact ⟨inv.apply fresh, kept.trans same, new, after, done.move (inv.counted i old there) moves⟩
    · exact absurd claim (done.not_claimed (inv.counted i old there))
  exact kept.2.1

/-- `claim_next_scan` in one go is a run of these commits. -/
theorem claimFirst_reaches (settings : Settings) {worker : String} {token : Nat → String}
    {now : DateTime} {leaseSeconds : ℚ} (ids : List Nat) {s : State}
    (fresh : ∀ i, ∀ lease ∈ s.leases, lease.leaseToken ≠ token i) :
    ∃ t, Runs.Reaches FreshToken (Step settings) s t ∧
      t.scans = (claimFirst worker token now leaseSeconds ids s.scans).1 ∧
      t.leases = s.leases ++ (claimFirst worker token now leaseSeconds ids s.scans).2.toList := by
  induction ids generalizing s with
  | nil => exact ⟨s, .refl, rfl, by simp [claimFirst]⟩
  | cons i rest ih =>
    simp only [claimFirst]
    cases cancels : cancelQueuedScan s.scans i now with
    | some scans =>
      obtain ⟨t, run, ends, leases⟩ := ih (s := { s with scans := scans }) fresh
      refine ⟨t, .head ⟨.cancelQueued i now, trivial, ?_⟩ run, ends, leases⟩
      simp only [Step, State.apply, cancels, Option.getD_some]
    | none =>
      cases claims : claimQueuedScan s.scans i worker (token i) now leaseSeconds with
      | none => exact ih fresh
      | some scans =>
        let claimed : State := s.apply settings (.claim i worker (token i) now leaseSeconds)
        have same : claimed = { s with scans := scans, runs := s.runs ++ [⟨⟨i, worker, token i⟩, .claimed⟩] } := by
          simp only [claimed, State.apply, claims]
        have handed : claimed.runs[s.runs.length]? = some ⟨⟨i, worker, token i⟩, .claimed⟩ := by
          rw [same]
          simp
        have bound : i < scans.length := by
          obtain ⟨scan, found, -, -, rfl⟩ := claimQueuedScan_some claims
          rw [List.length_set]
          exact (List.getElem?_eq_some_iff.mp found).1
        have row : claimed.scans[i]? = some (scans.get ⟨i, bound⟩) := by
          rw [same]
          exact List.getElem?_eq_getElem bound
        refine ⟨claimed.apply settings (.noteClaim s.runs.length now),
          Runs.Reaches.snoc (a := .noteClaim s.runs.length now)
            (.snoc (a := .claim i worker (token i) now leaseSeconds) .refl (fresh i) rfl) trivial rfl,
          ?_, ?_⟩
        · simp only [State.apply, Op.execution, Option.bind_some, handed, Option.map_some, row,
            State.commit, effect, noteClaimedScan, List.getElem?_eq_getElem bound]
          rw [same]
          rfl
        · obtain leases | ⟨_, _, _, _, _, impossible, _⟩ :=
            apply_leases settings claimed (.noteClaim s.runs.length now)
          · rw [leases, same]
            simp [State.leases]
          · cases impossible

/-- What holds of the scan queue in every state it reaches. -/
structure QueueSafe (settings : Settings) (s : State) : Prop where
  /-- An active scan has attempts left. -/
  within : ∀ (i : Nat) row, s.scans[i]? = some row → row.status = .queued ∨ row.status = .running →
    row.retryCount < row.attemptLimit settings
  bounded : ∀ (i : Nat) row, s.scans[i]? = some row → s.claims i ≤ row.attemptLimit settings
  /-- No two claims are held at once. -/
  exclusive : ∀ (e e' : Nat) lease lease' (row : ScanRun), s.leases[e]? = some lease →
    s.leases[e']? = some lease' → row.leaseMatches lease = true → row.leaseMatches lease' = true →
    e = e'
  /-- A scan is claimed out of the queue only. -/
  claimed : ∀ op (i : Nat) old, s.scans[i]? = some old →
    s.claims i < (s.apply settings op).claims i → old.status = .queued
  /-- A scan is quarantined by the step that counts its last attempt. -/
  quarantined : ∀ op (i : Nat) old new, s.scans[i]? = some old →
    (s.apply settings op).scans[i]? = some new →
    (new.status = .quarantined ∧ old.status ≠ .quarantined ↔
      old.retryCount < old.attemptLimit settings ∧ new.retryCount = old.attemptLimit settings)
  /-- A scan that is completed, cancelled, quarantined, or failed with its lease
  given up is claimed no more. -/
  final : ∀ (i : Nat) row, s.scans[i]? = some row →
    row.status = .completed ∨ row.status = .cancelled ∨ row.status = .quarantined ∨
      row.status = .failed ∧ row.leaseToken = none →
    ∀ t, Runs.Reaches FreshToken (Step settings) s t → t.claims i = s.claims i

theorem quarantined_iff {settings : Settings} {old new : ScanRun} {claims : Nat}
    (counted : Counted settings old claims) (moves : RowMove settings old new) :
    new.status = .quarantined ∧ old.status ≠ .quarantined ↔
      old.retryCount < old.attemptLimit settings ∧ new.retryCount = old.attemptLimit settings := by
  have uncounted (retries : new.retryCount = old.retryCount)
      (status : new.status = .quarantined → old.status = .quarantined) :
      new.status = .quarantined ∧ old.status ≠ .quarantined ↔
        old.retryCount < old.attemptLimit settings ∧
          new.retryCount = old.attemptLimit settings := by
    constructor
    · rintro ⟨now, before⟩
      exact absurd (status now) before
    · omega
  cases moves with
  | kept same status => exact uncounted same.retries (by rw [status]; exact id)
  | flagged _ _ retries _ status _ => exact uncounted retries (by rw [status]; exact id)
  | cancelled _ retries _ status _ => exact uncounted retries (by rw [status]; exact nofun)
  | released released _ status =>
    refine uncounted released.retries ?_
    rcases status with status | ⟨status, -⟩ <;> rw [status]
    · exact nofun
    · exact id
  | overwritten same status =>
    refine uncounted same.retries ?_
    rcases status with status | status | ⟨status, -⟩ <;> rw [status]
    · exact id
    · exact nofun
    · exact nofun
  | started same _ status =>
    refine uncounted same.retries ?_
    rcases status with status | ⟨status, -⟩ <;> rw [status] <;> exact nofun
  | counted token retries limit cancel from_ status =>
    obtain ⟨below, -⟩ := counted.below from_
    have unquarantined : old.status ≠ .quarantined := by
      rcases from_ with running | ⟨failed, -⟩
      · rw [running]; exact nofun
      · rw [failed]; exact nofun
    split at status
    · exact ⟨fun _ => ⟨below, by omega⟩, fun _ => ⟨status, unquarantined⟩⟩
    · rw [status]
      exact ⟨fun impossible => (nomatch impossible.1), fun reached => by omega⟩

theorem queueSafe_of_run (settings : Settings) {start s : State} (queued : start.Queued settings)
    (run : Runs.Reaches FreshToken (Step settings) start s) : QueueSafe settings s where
  within := by
    intro i row found status
    have counted := (queueInvariant_of_run queued run).counted i row found
    rcases status with status | status
    · exact (counted.queued status).2.1
    · exact (counted.leased (counted.running status)).1
  bounded := fun i row found => ((queueInvariant_of_run queued run).counted i row found).bounded
  exclusive := by
    intro e e' lease lease' row handed handed' holds holds'
    simp only [ScanRun.leaseMatches, Bool.and_eq_true, decide_eq_true_eq] at holds holds'
    have same : lease.leaseToken = lease'.leaseToken := by
      rw [holds.2] at holds'
      exact Option.some.inj holds'.2
    exact (queueInvariant_of_run queued run).token_inj handed handed' same
  claimed := by
    intro op i old found more
    have inv := queueInvariant_of_run queued run
    obtain ⟨new, -, ⟨-, same, -⟩ | ⟨claim, -⟩⟩ := apply_row settings inv.coherent op found
    · omega
    · exact claim.queued
  quarantined := by
    intro op i old new found after
    have inv := queueInvariant_of_run queued run
    have counted := inv.counted i old found
    obtain ⟨row, there, ⟨moves, -⟩ | ⟨claim, -⟩⟩ := apply_row settings inv.coherent op found
    · rw [there] at after
      cases after
      exact quarantined_iff counted moves
    · rw [there] at after
      cases after
      obtain ⟨worker, token, now, seconds, -, rfl⟩ := claim.op
      have below := (counted.queued claim.queued).2.1
      have same : (old.claim worker token now seconds).retryCount = old.retryCount := rfl
      constructor
      · rintro ⟨quarantined, -⟩
        cases quarantined
      · intro reached
        omega
  final := by
    intro i row found finished t later
    have inv := queueInvariant_of_run queued run
    have counted := inv.counted i row found
    refine Done.claims_eq inv found ?_ later
    rcases finished with completed | cancelled | quarantined | ⟨failed, free⟩
    · exact Or.inr (Or.inr ⟨counted.completed completed, by rw [completed]; decide⟩)
    · exact Or.inl (counted.cancelled cancelled)
    · exact Or.inr (Or.inl (counted.quarantined quarantined))
    · exact Or.inr (Or.inr ⟨free, by rw [failed]; decide⟩)

/-- One queued testing scan. -/
def oneQueued : State := ⟨[.enqueue 0 .manualAsync 0 4], [.testingPlanned], []⟩

theorem oneQueued_queued : oneQueued.Queued Settings.live where
  runs := rfl
  scans := by
    intro row member
    rw [oneQueued, List.mem_singleton] at member
    rw [member]
    decide

instance (s : State) : (op : Op) → Decidable (FreshToken s op)
  | .claim _ _ token _ _ =>
    inferInstanceAs (Decidable (∀ lease ∈ s.leases, lease.leaseToken ≠ token))
  | .requestCancel .. | .cancelQueued .. | .noteClaim .. | .heartbeat .. | .recover ..
  | .failMissing .. | .load .. | .start .. | .refresh .. | .stage .. | .complete .. | .cancelRun ..
  | .fail .. | .interrupt .. | .final .. | .crash .. => inferInstanceAs (Decidable True)

/-- A worker claims the scan and its pipeline fails on a timeout. -/
def failsOnce : List Op :=
  [.claim 0 "w1" "t1" 0 30, .load 0 0, .start 0 .testing true .manualAsync 1,
    .fail 0 ⟨.timeout, "timed out"⟩ 0 2]

theorem queueSafe_failsOnce :
    QueueSafe Settings.live (failsOnce.foldl (State.apply Settings.live) oneQueued) :=
  queueSafe_of_run Settings.live oneQueued_queued (Runs.Allowed.reaches (by decide +kernel))

/-- A failed scan whose owner's final block queues it again is claimed again. -/
theorem failed_scan_claimed_again :
    ¬ ∀ (start s t : State), start.Queued Settings.live →
      Runs.Reaches FreshToken (Step Settings.live) start s →
      Runs.Reaches FreshToken (Step Settings.live) s t →
      ∀ (i : Nat) row, s.scans[i]? = some row →
        row.status = .completed ∨ row.status = .failed ∨ row.status = .cancelled ∨
          row.status = .quarantined → t.claims i = s.claims i := by
  intro claimed
  have first : Runs.Reaches FreshToken (Step Settings.live) oneQueued
      (failsOnce.foldl (State.apply Settings.live) oneQueued) :=
    Runs.Allowed.reaches (by decide +kernel)
  have again : Runs.Reaches FreshToken (Step Settings.live)
      (failsOnce.foldl (State.apply Settings.live) oneQueued)
      ([Op.final 0 3 0, .claim 0 "w2" "t2" 100 30].foldl (State.apply Settings.live)
        (failsOnce.foldl (State.apply Settings.live) oneQueued)) :=
    Runs.Allowed.reaches (by decide +kernel)
  have row : ((failsOnce.foldl (State.apply Settings.live) oneQueued).scans[0]?.map
      ScanRun.status) = some .failed := by decide +kernel
  obtain ⟨scan, found, failed⟩ := Option.map_eq_some_iff.mp row
  have same := claimed _ _ _ oneQueued_queued first again 0 scan found (Or.inr (Or.inl failed))
  revert same
  decide +kernel

end RankRent.Worker
