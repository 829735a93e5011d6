import RankRent.CostControls.Ledger
import RankRent.Provider.Ownership

/-!
# Attempts of one row

A row of a failed attempt is reset for a later one under a new `attempt_token`.
An attempt is old once the stored row carries another token than its session's
copy.
-/

namespace RankRent.Provider

open CostControls

/-- The instance a session holds of a row. -/
def RequestState.copy : RequestState → Option ApiCall
  | .selected _ _ (.retry _ row) => some row
  | .taken a => some a.seen
  | _ => none

/-- `uuid.uuid4().hex` gives every claim and every attempt a token of its own. -/
def Fleet.FreshTokens (s : Fleet) : FleetOp → Prop
  | .work op => Worker.FreshToken s.queue op
  | .request _ (.prepare token _ _ _) => (∀ row ∈ s.calls, row.attemptToken ≠ some token) ∧
      ∀ e < s.queue.leases.length, ∀ copy ∈ (s.requests e).copy, copy.attemptToken ≠ some token
  | _ => True

/-- A failed row is reset under the lease its scan carries. -/
def ResetsLeased (s : Fleet) : FleetOp → Prop
  | .request e (.prepare _ _ _ _) =>
    match s.requests e with
    | .selected _ _ (.retry _ _) => ∀ lease ∈ s.lease e, Carries s lease
    | _ => True
  | _ => True

/-- An old attempt belongs to an execution whose scan was claimed again. -/
def OldSuperseded (s : Fleet) : Prop :=
  ∀ e a stored, s.requests e = .taken a → s.calls[a.row]? = some stored →
    stored.attemptToken ≠ a.seen.attemptToken → Superseded s e a.site.scan

/-- What holds of rows, sessions and leases in every run that meets the
conditions. -/
structure Fleet.Fenced (settings : Settings) (s : Fleet) : Prop where
  filed : s.Filed
  queue : Worker.QueueInvariant settings s.queue
  handedOn : HandedOn s.queue
  old : OldSuperseded s

/-- Queued scans, and no request on its way. -/
structure Fleet.Ready (settings : Settings) (s : Fleet) : Prop where
  queued : s.queue.Queued settings
  idle : ∀ e, s.requests e = .idle
  unique : ∀ (i j : Nat) row other scan id, s.calls[i]? = some row → s.calls[j]? = some other →
    standsFor row scan id = true → standsFor other scan id = true → i = j

theorem Fleet.Ready.fenced {settings : Settings} {s : Fleet} (ready : s.Ready settings) :
    s.Fenced settings where
  filed := filed_of_idle ready.idle ready.unique
  queue := ready.queued.invariant
  handedOn := by
    intro e e' lease lease' row held
    simp [Worker.State.leases, ready.queued.runs] at held
  old := fun e a stored at_ => by rw [ready.idle e] at at_; cases at_

section Steps
variable {settings : Settings} {s : Fleet}

/-- The copy of a session is among those a new token differs from. -/
theorem Fleet.Filed.copy_fresh (filed : s.Filed) {op : FleetOp} {e : Nat} {token : String}
    {force : Bool} {response : Option CachedResponse} {now : DateTime}
    (event : op = .request e (.prepare token force response now)) (fresh : s.FreshTokens op) {j : Nat}
    {copy : ApiCall} (at_ : (s.requests j).copy = some copy) : copy.attemptToken ≠ some token := by
  subst event
  have site : ∃ site, (s.requests j).site = some site := by
    generalize s.requests j = state at at_
    cases state with
    | idle => cases at_
    | selected site hit selection => exact ⟨site, rfl⟩
    | taken a => exact ⟨a.site, rfl⟩
  obtain ⟨site, at'⟩ := site
  obtain ⟨lease, held, -⟩ := filed.owner j site at'
  exact fresh.2 j (List.getElem?_eq_some_iff.mp held).1 copy at_

/-- A reset gives the row the token of the new attempt. -/
theorem Fleet.Filed.renewed (filed : s.Filed) {op : FleetOp} {e : Nat} {token : String}
    {force : Bool} {response : Option CachedResponse} {now : DateTime}
    (event : op = .request e (.prepare token force response now)) (fresh : s.FreshTokens op) {j : Nat}
    {copy : ApiCall} (at_ : (s.requests j).copy = some copy) (stored : Option String) :
    written copy.attemptToken (some token) stored = some token := by
  have differs := filed.copy_fresh event fresh at_
  simp only [written, Ne.symm differs, ↓reduceIte]

/-- A row prepared anew carries the token of its session. -/
theorem Fleet.Filed.prepared_token (filed : s.Filed) {op : FleetOp} {e : Nat}
    {lease : ScanExecutionLease} {site : CallSite} {selection : Selection} {token : String}
    {force : Bool} {response : Option CachedResponse} {now : DateTime} {i : Nat} {row stored : ApiCall}
    (event : op = .request e (.prepare token force response now)) (fresh : s.FreshTokens op)
    (selected : s.requests e = .selected site false selection)
    (commits : commitCall s.calls site (preparation lease false token force response now) selection =
      some ((s.apply settings op).calls, i, row))
    (there : (s.apply settings op).calls[i]? = some stored) :
    row.attemptToken = some token ∧ stored.attemptToken = some token := by
  cases selection with
  | existing j => cases filed.selected e site false _ selected
  | retry j copy =>
    obtain ⟨old, found, rfl, rfl, left⟩ := commitCall_retry commits
    rw [left, List.getElem?_set_self (List.getElem?_eq_some_iff.mp found).1] at there
    cases there
    exact ⟨rfl, filed.renewed event fresh (j := e) (by rw [selected]; rfl) old.attemptToken⟩
  | insert call =>
    obtain ⟨-, rfl, rfl, left⟩ := commitCall_insert commits
    rw [left, List.getElem?_concat_length] at there
    cases there
    exact ⟨rfl, rfl⟩

theorem OldSuperseded.apply (fenced : s.Fenced settings) {op : FleetOp} (fresh : s.FreshTokens op)
    (leased : ResetsLeased s op) : OldSuperseded (s.apply settings op) := by
  have filed := fenced.filed
  intro e a stored after there differs
  obtain ⟨b, before, continues⟩ | ⟨lease, site, selection, token, force, response, now, i, row, event,
      -, selected, commits, rfl⟩ := taken_back filed.shaped after
  · rw [continues.site]
    rw [continues.row] at there
    rw [continues.token] at differs
    have of := filed.taken e b before
    obtain ⟨row, at_, run, -⟩ := of.stored
    obtain ⟨old, found, move⟩ | ⟨_, _, _, _, _, _, last, -⟩ := apply_call_back filed.shaped op there
    · rw [found] at at_
      cases at_
      obtain same | ⟨e', lease, site, hit, copy, token, force, response, now, rfl, session, selected, -⟩ :=
        move.token
      · rw [same] at differs
        exact (fenced.old e b row before found differs).apply settings op
      · -- The row is reset under the lease of its scan, so its holder came later.
        obtain ⟨-, of'⟩ := filed.selected e' site hit _ selected
        obtain ⟨row', found', run', -⟩ := of'.stored
        rw [found] at found'
        cases found'
        have scan : b.site.scan = site.scan :=
          Option.some.inj ((of.run.symm.trans run.symm).trans (run'.trans of'.run))
        obtain ⟨lease', held', scan'⟩ := filed.owner e' site (by rw [selected]; rfl)
        obtain ⟨mine, held, scan''⟩ := filed.owner e b.site (by rw [before]; rfl)
        have is : lease = lease' := Option.some.inj ((lease_of_session session).symm.trans held')
        subst is
        have carries : Carries s lease := by
          simp only [ResetsLeased, selected] at leased
          exact leased lease session
        have apart : e ≠ e' := by
          rintro rfl
          rw [before] at selected
          cases selected
        refine Superseded.apply ⟨e', lease, ?_, held', scan'.trans scan.symm⟩ settings _
        by_contra early
        have superseded : Superseded s e' lease.scanId :=
          ⟨e, mine, by omega, held, scan''.trans (scan.trans scan'.symm)⟩
        exact superseded.not_carried fenced.handedOn held' carries
    · have bound := (List.getElem?_eq_some_iff.mp at_).1
      omega
  · obtain ⟨mine, theirs⟩ := filed.prepared_token event fresh selected commits there
    rw [mine, theirs] at differs
    exact absurd rfl differs

theorem Fleet.Fenced.apply (fenced : s.Fenced settings) {op : FleetOp} (fresh : s.FreshTokens op)
    (leased : ResetsLeased s op) : (s.apply settings op).Fenced settings where
  filed := fenced.filed.apply op
  queue := by
    obtain same | ⟨event, rfl, queue⟩ := apply_queue settings s op
    · rw [same]
      exact fenced.queue
    · rw [queue]
      exact fenced.queue.apply fresh
  handedOn := by
    obtain same | ⟨event, rfl, queue⟩ := apply_queue settings s op
    · rw [same]
      exact fenced.handedOn
    · rw [queue]
      exact fenced.handedOn.apply fenced.queue.coherent fresh
  old := OldSuperseded.apply fenced fresh leased

/-- What an attempt has on its row and in its buckets is left alone. -/
def LeavesAttempt (s t : Fleet) (i : Nat) : Prop :=
  ∀ stored, s.calls[i]? = some stored → ∃ after, t.calls[i]? = some after ∧
    after.status = stored.status ∧ after.attemptState = stored.attemptState ∧
    after.reservationState = stored.reservationState ∧
    ∀ key, CountsIn stored key → lockedBucket t.usage key = lockedBucket s.usage key

/-- The event runs the completion, failure or cancellation path of a request. -/
def Ends (a : Attempt) : RequestOp → Prop
  | .complete _ => a.raised = false ∧ a.reservation.isSome ∧ a.seen.networkStartedAt.isSome
  | .fail _ => True
  | .cancel _ => a.raised = false ∧ a.seen.networkStartedAt.isSome
  | _ => False

theorem leavesAttempt_of_eq {t : Fleet} (calls : t.calls = s.calls) (usage : t.usage = s.usage)
    (i : Nat) : LeavesAttempt s t i := by
  intro stored there
  exact ⟨stored, by rw [calls]; exact there, rfl, rfl, rfl, fun key _ => by rw [usage]⟩

theorem reserveProviderCall_lost (settings : Settings) (db : Database) (seen : Option ApiCall)
    (q : ReserveRequest) (lost : ¬ LeaseHeld db q.executionLease q.now) :
    ∃ error, reserveProviderCall settings db seen q = (.error error, db) := by
  unfold reserveProviderCall
  cases admitted : raiseFirst (leaseChecks db q.executionLease q.now ++
      assertSwitches settings q.environment q.scanProfile ++
      [abnormalCostCheck settings q.estimatedCost] ++
      eligibilityChecks db seen q.apiCallId) with
  | error e => exact ⟨e, rfl⟩
  | ok u =>
    have pass := raiseFirst_ok.mp admitted
    refine absurd (leaseChecks_pass.mp fun check member => ?_) lost
    exact pass check (List.mem_append_left _ (List.mem_append_left _ (List.mem_append_left _ member)))

theorem markProviderCallSubmitted_lost {db : Database} {lease : Option ScanExecutionLease}
    (seen : Option ApiCall) (r : UsageReservation) {now : DateTime} (lost : ¬ LeaseHeld db lease now) :
    ∃ error, markProviderCallSubmitted db seen r lease now = .error error := by
  cases marked : markProviderCallSubmitted db seen r lease now with
  | error e => exact ⟨e, rfl⟩
  | ok left => exact absurd (markProviderCallSubmitted_ok marked).1 lost

/-- How a request ends: completed, unknown, or failed and free to be retried. -/
inductive Ended : CallStatus → AttemptState → Prop
  | completed : Ended .completed .completed
  | unknown : Ended .providerOutcomeUnknown .providerOutcomeUnknown
  | failed : Ended .failed .failed
  | failedBeforeNetwork : Ended .failedBeforeNetwork .failedBeforeNetwork
  | blocked : Ended .blocked .blocked

theorem Ended.inactive {status : CallStatus} {state : AttemptState} (ended : Ended status state) :
    status ≠ .prepared ∧ status ≠ .inFlight ∧ state ≠ .prepared ∧ state ≠ .reserved ∧
      state ≠ .inFlight := by
  cases ended <;> decide

theorem Closing.ended {a : Attempt} {event : RequestOp} {record : CallRecord} {q : FinishRequest}
    (closing : Closing settings a event record q) :
    ∃ state outcome, record.status.attempt = some (state, outcome) ∧ Ended record.status state ∧
      (q.providerOutcomeUnknown = true → record.status = .providerOutcomeUnknown) := by
  cases closing with
  | completed c _ _ => exact ⟨_, _, rfl, .completed, nofun⟩
  | failed f =>
    simp only [CallFailure.record, CallFailure.status, CallFailure.request]
    by_cases ambiguous : f.ambiguous a.seen a.reservation.isSome = true
    · rw [if_pos ambiguous]
      exact ⟨_, _, rfl, .unknown, fun _ => rfl⟩
    · rw [if_neg ambiguous]
      by_cases circuit : f.circuitOpen = true
      · rw [if_pos circuit]
        exact ⟨_, _, rfl, .blocked, fun unknown => absurd unknown ambiguous⟩
      · rw [if_neg circuit]
        split
        · exact ⟨_, _, rfl, .failedBeforeNetwork, fun unknown => absurd unknown ambiguous⟩
        · exact ⟨_, _, rfl, .failed, fun unknown => absurd unknown ambiguous⟩
  | cancelled now sent _ =>
    simp only [cancelRecord, sent, ↓reduceIte]
    exact ⟨_, _, rfl, .unknown, fun _ => trivial⟩

/-- The row after a request ended carries its outcome, whatever it carried. -/
theorem Attempt.Shaped.closed_columns {a : Attempt} (shaped : a.Shaped) {event : RequestOp}
    {record : CallRecord} {q : FinishRequest} (closing : Closing settings a event record q)
    (stored : ApiCall) :
    (a.closedRow stored record q).status = record.status ∧
      Ended record.status (a.closedRow stored record q).attemptState := by
  obtain ⟨state, outcome, attempt, ended, agree⟩ := closing.ended
  have live : (a.seen.status = .prepared ∨ a.seen.status = .inFlight) ∧
      (a.seen.attemptState = .prepared ∨ a.seen.attemptState = .reserved ∨
        a.seen.attemptState = .inFlight) := by
    cases reservation : a.reservation with
    | none =>
      obtain ⟨-, attempt, status, -⟩ := shaped.unreserved reservation
      exact ⟨Or.inl status, Or.inl attempt⟩
    | some r =>
      obtain ⟨-, -, ⟨-, attempt, status⟩ | ⟨-, attempt, status⟩⟩ := shaped.reserved r reservation
      · exact ⟨Or.inl status, Or.inr (Or.inl attempt)⟩
      · exact ⟨Or.inr status, Or.inr (Or.inr attempt)⟩
  have known : a.seen.status ≠ .providerOutcomeUnknown := by
    rcases live.1 with status | status <;> rw [status] <;> exact nofun
  have finished : (a.seen.finish record).status = record.status ∧
      (a.seen.finish record).attemptState = state := by
    simp [ApiCall.finish, known, attempt]
  obtain ⟨unprepared, landed, unprepared', unreserved, landed'⟩ := ended.inactive
  have status : record.status ≠ a.seen.status := by
    rcases live.1 with at_ | at_ <;> rw [at_]
    · exact unprepared
    · exact landed
  have changed : state ≠ a.seen.attemptState := by
    rcases live.2 with at_ | at_ | at_ <;> rw [at_]
    · exact unprepared'
    · exact unreserved
    · exact landed'
  have flushed : (ApiCall.flush a.seen (a.seen.finish record) stored).status = record.status ∧
      (ApiCall.flush a.seen (a.seen.finish record) stored).attemptState = state := by
    simp [ApiCall.flush, finished, written, status, changed]
  unfold Attempt.closedRow
  split
  · rw [flushed.1, flushed.2]
    exact ⟨rfl, ended⟩
  · -- Settling sets what was recorded before, so it writes neither column.
    have settled : ((a.seen.finish record).settle q.providerOutcomeUnknown q.now).status =
          (a.seen.finish record).status ∧
        ((a.seen.finish record).settle q.providerOutcomeUnknown q.now).attemptState =
          (a.seen.finish record).attemptState := by
      cases unknown : q.providerOutcomeUnknown with
      | false => exact ⟨rfl, rfl⟩
      | true =>
        rw [agree unknown] at attempt
        cases attempt
        rw [finished.1, finished.2, agree unknown]
        exact ⟨rfl, rfl⟩
    have kept : (Provider.closedRow a.seen stored record q).status = record.status ∧
        (Provider.closedRow a.seen stored record q).attemptState = state := by
      simp only [Provider.closedRow]
      unfold ApiCall.flush
      simp only [settled, written_unchanged]
      exact flushed
    rw [kept.1, kept.2]
    exact ⟨rfl, ended⟩

/-- Without its lease a request commits nothing before it ends. -/
theorem run_lost {plan : List ScanPlanCall} {lease : ScanExecutionLease} {db : Database}
    (lost : ∀ now, ¬ LeaseHeld db (some lease) now) {a : Attempt} {event : RequestOp}
    (goes_on : ¬ Ends a event) : (event.run settings plan lease db (.taken a)).1 = db := by
  cases event with
  | select => rfl
  | prepare => rfl
  | reserve environment version profile now =>
    simp only [RequestOp.run]
    split
    · rfl
    · obtain ⟨error, refused⟩ := reserveProviderCall_lost settings db (some a.seen)
        (a.reserveRequest lease environment version profile now) (lost now)
      rw [refused]
  | submit now =>
    simp only [RequestOp.run]
    split
    · rename_i r _ _ _
      obtain ⟨error, refused⟩ := markProviderCallSubmitted_lost (some a.seen) r (lost now)
      rw [refused]
    · rfl
  | complete c =>
    simp only [RequestOp.run]
    split
    · rename_i unraised reserved sent
      exact absurd ⟨unraised, by simp [reserved], by simp [sent]⟩ goes_on
    · rfl
  | fail f => exact absurd trivial goes_on
  | cancel now =>
    simp only [RequestOp.run]
    split
    · rename_i unraised sent
      exact absurd ⟨unraised, by simp [sent]⟩ goes_on
    · rfl

theorem closing_of_ends (settings : Settings) (plan : List ScanPlanCall) (lease : ScanExecutionLease)
    (db : Database) {a : Attempt} (shaped : a.Shaped) {event : RequestOp} (ends : Ends a event) :
    ∃ record q, Closing settings a event record q ∧
      (event.run settings plan lease db (.taken a)).1 =
        closeCall db a.row a.seen a.reservation record q := by
  cases event with
  | complete c =>
    obtain ⟨unraised, reserved, sent⟩ := ends
    refine ⟨_, _, .completed c sent reserved, ?_⟩
    obtain ⟨r, some⟩ := Option.isSome_iff_exists.mp reserved
    obtain ⟨at_, started⟩ := Option.isSome_iff_exists.mp sent
    simp only [RequestOp.run, unraised, some, started]
    rfl
  | fail f => exact ⟨_, _, .failed f, rfl⟩
  | cancel now =>
    obtain ⟨unraised, sent⟩ := ends
    have reserved := shaped.reserved_of_sent sent
    refine ⟨_, _, .cancelled now sent reserved, ?_⟩
    obtain ⟨r, some⟩ := Option.isSome_iff_exists.mp reserved
    obtain ⟨at_, started⟩ := Option.isSome_iff_exists.mp sent
    simp only [RequestOp.run, unraised, some, started]
    rfl
  | _ => exact ends.elim

end Steps

/-- In every run that resets failed rows under the lease of their scan, an event
of an old attempt leaves the later one alone unless it ends the old request, and
while the later attempt is on its way that is the only exception. -/
theorem old_attempt_leaves_later (settings : Settings) {start s : Fleet}
    (ready : start.Ready settings)
    (run : Runs.Reaches (fun s op => s.FreshTokens op ∧ ResetsLeased s op) (Fleet.Step settings)
      start s) {e : Nat} {a : Attempt} {stored : ApiCall} {lease : ScanExecutionLease}
    (session : s.lease e = some lease) (taken : s.requests e = .taken a)
    (there : s.calls[a.row]? = some stored) (old : stored.attemptToken ≠ a.seen.attemptToken)
    (event : RequestOp) :
    (¬ Ends a event → LeavesAttempt s (s.apply settings (.request e event)) a.row) ∧
      (stored.status = .prepared ∨ stored.status = .inFlight → Ends a event →
        ¬ LeavesAttempt s (s.apply settings (.request e event)) a.row) := by
  have fenced : s.Fenced settings := by
    refine run.invariant (I := Fleet.Fenced settings) ?_ ready.fenced
    rintro s op t fenced ⟨fresh, leased⟩ rfl
    exact fenced.apply fresh leased
  have shaped := fenced.filed.shaped e a taken
  have committed : (s.apply settings (.request e event)).calls =
        (event.run settings s.plan lease s.db (.taken a)).1.calls ∧
      (s.apply settings (.request e event)).usage =
        (event.run settings s.plan lease s.db (.taken a)).1.usage := by
    simp only [Fleet.apply, session, taken]
    exact ⟨rfl, rfl⟩
  constructor
  · intro goes_on
    have held := lease_of_session session
    obtain ⟨mine, held', scan⟩ := fenced.filed.owner e a.site (by rw [taken]; rfl)
    rw [held] at held'
    cases held'
    have superseded := fenced.old e a stored taken there old
    rw [← scan] at superseded
    have lost (now : DateTime) : ¬ LeaseHeld s.db (some lease) now := fun current =>
      superseded.not_carried fenced.handedOn held (carries_of_held current)
    rw [run_lost lost goes_on] at committed
    exact leavesAttempt_of_eq committed.1 committed.2 a.row
  · intro live ends leaves
    obtain ⟨record, q, closing, closes⟩ := closing_of_ends settings s.plan lease s.db shaped ends
    obtain ⟨after, found, status, -⟩ := leaves stored there
    have calls : (s.apply settings (.request e event)).calls =
        s.calls.set a.row (a.closedRow stored record q) := by
      rw [committed.1, closes]
      exact shaped.closeCall_calls there record q
    rw [calls, List.getElem?_set_self (List.getElem?_eq_some_iff.mp there).1] at found
    cases found
    obtain ⟨recorded, ended⟩ := shaped.closed_columns closing stored
    rw [recorded] at status
    rcases live with live | live
    · exact ended.inactive.1 (status.trans live)
    · exact ended.inactive.2.1 (status.trans live)

/-! ## A row handed from one worker to the next -/

instance (s : Fleet) (lease : ScanExecutionLease) : Decidable (Carries s lease) :=
  inferInstanceAs (Decidable (∃ scan ∈ s.queue.scans[lease.scanId]?, scan.leaseToken = some lease.leaseToken))

instance (s : Fleet) : (op : FleetOp) → Decidable (s.FreshTokens op)
  | .work op => inferInstanceAs (Decidable (Worker.FreshToken s.queue op))
  | .request _ (.prepare token _ _ _) =>
    inferInstanceAs (Decidable ((∀ row ∈ s.calls, row.attemptToken ≠ some token) ∧
      ∀ e < s.queue.leases.length, ∀ copy ∈ (s.requests e).copy, copy.attemptToken ≠ some token))
  | .request _ (.select ..) | .request _ (.reserve ..) | .request _ (.submit ..)
  | .request _ (.complete ..) | .request _ (.fail ..) | .request _ (.cancel ..) | .reconcile ..
  | .resolve .. => inferInstanceAs (Decidable True)

instance (s : Fleet) : (op : FleetOp) → Decidable (ResetsLeased s op)
  | .request e (.prepare token force response now) =>
    match at_ : s.requests e with
    | .selected _ _ (.retry _ _) =>
      decidable_of_iff (∀ lease ∈ s.lease e, Carries s lease) (by simp only [ResetsLeased, at_])
    | .selected _ _ (.existing _) | .selected _ _ (.insert _) | .idle | .taken _ =>
      isTrue (by simp only [ResetsLeased, at_])
  | .request _ (.select ..) | .request _ (.reserve ..) | .request _ (.submit ..)
  | .request _ (.complete ..) | .request _ (.fail ..) | .request _ (.cancel ..) | .reconcile ..
  | .resolve .. | .work .. => inferInstanceAs (Decidable True)

/-- The attempt a request is at. -/
def RequestState.attempt : RequestState → Option Attempt
  | .taken a => some a
  | _ => none

theorem taken_of_attempt {state : RequestState} {a : Attempt} (at_ : state.attempt = some a) :
    state = .taken a := by
  cases state with
  | taken b => cases at_; rfl
  | idle => cases at_
  | selected => cases at_

/-- One queued testing scan with one planned request. -/
def onePlanned : Fleet :=
  ⟨Worker.oneQueued, [], [], [], [], [⟨0, "req-001", "dataforseo", "serp", "k", true, 1⟩],
    fun _ => .idle⟩

theorem onePlanned_ready : onePlanned.Ready Settings.live where
  queued := Worker.oneQueued_queued
  idle := fun _ => rfl
  unique := fun _ _ _ _ _ _ found => by cases found

/-- The first worker stalls after its reservation; the scan is recovered and a
second worker reserves the same row. -/
def handedOver : List FleetOp :=
  [.work (.claim 0 "w1" "t1" 0 30), .work (.load 0 0), .work (.start 0 .testing true .manualAsync 1),
    .request 0 (.select "dataforseo" "serp" "k" false .sandbox 2),
    .request 0 (.prepare "a1" false none 3), .request 0 (.reserve .sandbox "v1" .testing 4),
    .work (.recover 30 100 fun _ => 0),
    .work (.claim 0 "w2" "t2" 200 30), .work (.load 1 0),
    .work (.start 1 .testing true .manualAsync 201),
    .request 1 (.select "dataforseo" "serp" "k" false .sandbox 202),
    .request 1 (.prepare "a2" false none 203), .request 1 (.reserve .sandbox "v1" .testing 204)]

def handedOverState : Fleet := handedOver.foldl (Fleet.apply Settings.live) onePlanned

theorem handedOver_allowed : Runs.Allowed (fun s op => s.FreshTokens op ∧ ResetsLeased s op)
    (Fleet.apply Settings.live) onePlanned handedOver := by
  decide +kernel

/-- The first worker is at an old attempt. -/
theorem old_of_columns {s : Fleet} (session : (s.lease 0).isSome)
    (at_ : (s.requests 0).attempt.map (fun a => (a.row, a.seen.attemptToken)) = some (0, some "a1"))
    (there : s.calls[0]?.map (fun row => (row.attemptToken, row.status)) =
      some (some "a2", .prepared)) :
    ∃ a stored lease, s.lease 0 = some lease ∧ s.requests 0 = .taken a ∧ a.row = 0 ∧
      s.calls[a.row]? = some stored ∧ stored.attemptToken ≠ a.seen.attemptToken ∧
      stored.status = .prepared := by
  obtain ⟨a, taken, is⟩ := Option.map_eq_some_iff.mp at_
  obtain ⟨row, token⟩ := Prod.mk.inj is
  obtain ⟨stored, found, is'⟩ := Option.map_eq_some_iff.mp there
  obtain ⟨token', status⟩ := Prod.mk.inj is'
  obtain ⟨lease, session⟩ := Option.isSome_iff_exists.mp session
  refine ⟨a, stored, lease, session, taken_of_attempt taken, row, by rw [row]; exact found, ?_, status⟩
  rw [token, token']
  decide

/-- The stalled worker is refused when it goes on to submit. -/
theorem stalled_submission_leaves_later :
    LeavesAttempt handedOverState
      (handedOverState.apply Settings.live (.request 0 (.submit 205))) 0 := by
  obtain ⟨a, stored, lease, session, taken, row, there, old, -⟩ :=
    old_of_columns (s := handedOverState) (by decide +kernel) (by decide +kernel) (by decide +kernel)
  have leaves := (old_attempt_leaves_later Settings.live onePlanned_ready
    handedOver_allowed.reaches session taken there old (.submit 205)).1 (fun ends => ends)
  rw [row] at leaves
  exact leaves

/-- The refusal reaches its handler. -/
def leaseLost : CallFailure :=
  ⟨"ScanLeaseLost", "Worker w1 no longer owns the active lease for scan 0.", false, true, false,
    false, none, 206⟩

/-- The handler writes the failure over the second worker's attempt and takes its
reservation out of the buckets. -/
theorem stalled_failure_overwrites_later :
    ¬ ∀ (start s : Fleet), start.Ready Settings.live →
      Runs.Reaches Fleet.FreshTokens (Fleet.Step Settings.live) start s →
      ∀ e a stored event, s.requests e = .taken a → s.calls[a.row]? = some stored →
        stored.attemptToken ≠ a.seen.attemptToken →
        LeavesAttempt s (s.apply Settings.live (.request e event)) a.row := by
  intro claimed
  let refused := handedOverState.apply Settings.live (.request 0 (.submit 205))
  have run : Runs.Reaches Fleet.FreshTokens (Fleet.Step Settings.live) onePlanned refused :=
    Runs.Reaches.snoc (a := .request 0 (.submit 205))
      (Runs.Reaches.mono (fun _ _ => And.left) handedOver_allowed.reaches) trivial rfl
  obtain ⟨a, stored, lease, -, taken, row, there, old, status⟩ :=
    old_of_columns (s := refused) (by decide +kernel) (by decide +kernel) (by decide +kernel)
  obtain ⟨after, found, kept, -⟩ := claimed onePlanned refused onePlanned_ready run 0 a stored
    (.fail leaseLost) taken there old stored there
  have written : ((refused.apply Settings.live (.request 0 (.fail leaseLost))).calls[0]?.map
      ApiCall.status) = some .failedBeforeNetwork := by decide +kernel
  rw [row] at found
  rw [found, Option.map_some, kept, status] at written
  cases written

end RankRent.Provider
