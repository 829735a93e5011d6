import RankRent.Provider.AttemptFencing

/-!
# No blind second send

A row whose request is settled is not marked submitted again: what a session
works on is its own attempt, and what it resets is a failed row.
-/

namespace RankRent

/-- The statuses after which a planned request is never sent again. -/
def CallStatus.settled : CallStatus → Bool
  | .completed | .cacheHit | .providerOutcomeUnknown | .providerConfirmedNotBilled => true
  | _ => false

/-- The attempt state of a row goes with its status. A recovered attempt whose
session still holds the lease may reserve once more. -/
def ApiCall.Agrees (row : ApiCall) : Prop :=
  match row.status with
  | .planned => False
  | .prepared => row.attemptState = .prepared ∨ row.attemptState = .reserved
  | .inFlight => row.attemptState = .inFlight
  | .completed => row.attemptState = .completed ∨ row.attemptState = .reconciled
  | .cacheHit => row.attemptState = .cacheHit
  | .failed => row.attemptState = .failed
  | .blocked => row.attemptState = .blocked
  | .failedBeforeNetwork => row.attemptState = .failedBeforeNetwork ∨
      row.attemptState = .reserved ∧ row.networkStartedAt = none
  | .providerOutcomeUnknown => row.attemptState = .providerOutcomeUnknown
  | .providerConfirmedNotBilled => row.attemptState = .reconciled

theorem ApiCall.Agrees.closed {row : ApiCall} (agrees : row.Agrees)
    (settled : row.status.settled = true) : row.openAttempt = false := by
  unfold ApiCall.Agrees at agrees
  unfold ApiCall.openAttempt
  generalize row.status = status at agrees settled
  cases status <;> simp only [CallStatus.settled, Bool.false_eq_true] at settled
  · rcases agrees with state | state <;> simp [state]
  · simp [agrees]
  · simp [agrees]
  · simp [agrees]

/-- A failed row waits for no outcome, and what is open on it was not sent. -/
theorem ApiCall.Agrees.failed {row : ApiCall} (agrees : row.Agrees)
    (failed : row.status.retryable = true) :
    row.attemptState ≠ .prepared ∧ row.attemptState ≠ .cacheHit ∧
      row.attemptState ≠ .providerOutcomeUnknown ∧ (row.openAttempt = true → row.maybeSent = false) := by
  unfold ApiCall.Agrees at agrees
  unfold ApiCall.openAttempt ApiCall.maybeSent
  generalize row.status = status at agrees failed
  cases status <;> simp only [CallStatus.retryable, Bool.false_eq_true] at failed
  · simp [agrees]
  · rcases agrees with state | ⟨state, network⟩
    · simp [state]
    · simp [state, network]
  · simp [agrees]

namespace Provider

open CostControls

/-- A row no request was sent on. -/
structure Unsent (row : ApiCall) : Prop where
  status : row.status = .prepared ∨ row.status = .failedBeforeNetwork
  state : row.attemptState = .prepared ∨ row.attemptState = .reserved ∨
    row.attemptState = .failedBeforeNetwork
  network : row.networkStartedAt = none

/-- The stored row of an attempt that is still its own. -/
structure Attempt.OnRow (a : Attempt) (stored : ApiCall) : Prop where
  unsent : a.seen.networkStartedAt = none → Unsent stored
  sent : a.seen.networkStartedAt.isSome →
    stored.networkStartedAt.isSome ∧ stored.status.retryable = false

/-- The event records that the request failed and may be retried. -/
def recordsFailure (a : Attempt) : RequestOp → Bool
  | .fail f => (f.status a.seen a.reservation.isSome).retryable
  | _ => false

/-- A request that ends finds its own attempt on the row, and not settled by
recovery or an operator if it records a failure. -/
def EndsOwn (s : Fleet) : FleetOp → Prop
  | .request e event =>
    match s.requests e with
    | .taken a => Ends a event → ∀ stored ∈ s.calls[a.row]?,
        stored.attemptToken = a.seen.attemptToken ∧
          (recordsFailure a event = true → stored.status.settled = false)
    | _ => True
  | _ => True

structure Fleet.Orderly (settings : Settings) (s : Fleet) : Prop where
  fenced : s.Fenced settings
  distinct : ∀ e e' a a', s.requests e = .taken a → s.requests e' = .taken a' →
    a.seen.attemptToken = a'.seen.attemptToken → e = e'
  agrees : ∀ (i : Nat) row, s.calls[i]? = some row → row.Agrees
  copies : ∀ e site hit i copy, s.requests e = .selected site hit (.retry i copy) → copy.Agrees
  attempts : ∀ e a stored, s.requests e = .taken a → s.calls[a.row]? = some stored →
    stored.attemptToken = a.seen.attemptToken → a.OnRow stored
  /-- A session that holds the lease finds the row it selected still failed. -/
  selections : ∀ e site hit i copy lease stored,
    s.requests e = .selected site hit (.retry i copy) → s.queue.leases[e]? = some lease →
    Carries s lease → s.calls[i]? = some stored →
    stored.status.retryable = true ∧ (copy.networkStartedAt = none → stored.networkStartedAt = none)

/-- Every way a commit changes a row while the conditions are met. -/
inductive OrderlyMove (settings : Settings) (s : Fleet) (op : FleetOp) (i : Nat) (old new : ApiCall) :
    Prop
  | kept (same : new = old)
  | reset {e : Nat} {lease : ScanExecutionLease} {site : CallSite} {hit : Bool} {copy : ApiCall}
      {token : String} {force : Bool} {response : Option CachedResponse} {now : DateTime}
      (event : op = .request e (.prepare token force response now)) (session : s.lease e = some lease)
      (carries : Carries s lease) (selected : s.requests e = .selected site hit (.retry i copy))
      (left : ∀ site hit selection, (s.apply settings op).requests e ≠ .selected site hit selection)
      (failed : old.status.retryable = true)
      (status : new.status = .prepared ∧ new.attemptState = .prepared ∨
        new.status = .cacheHit ∧ new.attemptState = .cacheHit)
      (network : new.networkStartedAt = none)
      (renewed : new.attemptToken = written copy.attemptToken (some token) old.attemptToken)
  | reserved {e : Nat} {lease : ScanExecutionLease} {a : Attempt} (session : s.lease e = some lease)
      (carries : Carries s lease) (taken : s.requests e = .taken a) (row : a.row = i)
      (own : old.attemptToken = a.seen.attemptToken) (was : Unsent old)
      (status : new.status = old.status) (state : new.attemptState = .reserved)
      (network : new.networkStartedAt = none)
  | submitted {e : Nat} {lease : ScanExecutionLease} {a : Attempt} {now : DateTime}
      (session : s.lease e = some lease) (carries : Carries s lease) (taken : s.requests e = .taken a)
      (row : a.row = i) (own : old.attemptToken = a.seen.attemptToken)
      (left : (s.apply settings op).requests e = .taken { a with seen := a.seen.submit now })
      (was : Unsent old) (status : new.status = .inFlight) (state : new.attemptState = .inFlight)
      (network : new.networkStartedAt.isSome)
  | closed {e : Nat} {a : Attempt} (taken : s.requests e = .taken a) (row : a.row = i)
      (own : old.attemptToken = a.seen.attemptToken)
      (left : (s.apply settings op).requests e = .idle) (ended : Ended new.status new.attemptState)
      (network : new.networkStartedAt = old.networkStartedAt)
      (sent : new.status.retryable = false → a.seen.networkStartedAt.isSome)
      (unsettled : new.status.retryable = true → old.status.settled = false)
  | abandoned (opened : old.openAttempt = true)
      (status : old.maybeSent = true ∧ new.status = .providerOutcomeUnknown ∧
          new.attemptState = .providerOutcomeUnknown ∨
        old.maybeSent = false ∧ new.status = .failedBeforeNetwork ∧
          new.attemptState = .failedBeforeNetwork)
      (network : new.networkStartedAt = old.networkStartedAt)
  | resolved (was : old.attemptState = .providerOutcomeUnknown)
      (status : new.status = .completed ∨ new.status = .providerConfirmedNotBilled)
      (state : new.attemptState = .reconciled) (network : new.networkStartedAt = old.networkStartedAt)

section Steps
variable {settings : Settings} {s : Fleet}

/-- A session that holds the lease works on its own attempt. -/
theorem Fleet.Fenced.own (fenced : s.Fenced settings) {e : Nat} {lease : ScanExecutionLease}
    {a : Attempt} {stored : ApiCall} (session : s.lease e = some lease) (carries : Carries s lease)
    (taken : s.requests e = .taken a) (there : s.calls[a.row]? = some stored) :
    stored.attemptToken = a.seen.attemptToken := by
  by_contra differs
  obtain ⟨mine, held, scan⟩ := fenced.filed.owner e a.site (by rw [taken]; rfl)
  rw [lease_of_session session] at held
  cases held
  have superseded := fenced.old e a stored taken there differs
  rw [← scan] at superseded
  exact superseded.not_carried fenced.handedOn (lease_of_session session) carries

theorem closedRow_network (a : Attempt) (stored : ApiCall) (record : CallRecord) (q : FinishRequest) :
    (a.closedRow stored record q).networkStartedAt = stored.networkStartedAt := by
  have finished : (a.seen.finish record).networkStartedAt = a.seen.networkStartedAt := by
    unfold ApiCall.finish
    split <;> rfl
  have settled : ((a.seen.finish record).settle q.providerOutcomeUnknown q.now).networkStartedAt =
      (a.seen.finish record).networkStartedAt := by
    cases q.providerOutcomeUnknown <;> rfl
  unfold Attempt.closedRow
  split
  · simp only [ApiCall.flush, finished, written_unchanged]
  · simp only [closedRow, ApiCall.flush, settled, finished, written_unchanged]

theorem abandoned_columns (now : DateTime) (row : ApiCall) :
    (row.maybeSent = true ∧ (abandoned now row).status = .providerOutcomeUnknown ∧
        (abandoned now row).attemptState = .providerOutcomeUnknown ∨
      row.maybeSent = false ∧ (abandoned now row).status = .failedBeforeNetwork ∧
        (abandoned now row).attemptState = .failedBeforeNetwork) ∧
      (abandoned now row).networkStartedAt = row.networkStartedAt := by
  have network : (abandoned now row).networkStartedAt = row.networkStartedAt := by
    unfold abandoned ApiCall.abandon
    split <;> split <;> rfl
  refine ⟨?_, network⟩
  unfold abandoned ApiCall.abandon
  cases row.maybeSent with
  | true => exact Or.inl ⟨rfl, rfl, rfl⟩
  | false => exact Or.inr ⟨rfl, rfl, rfl⟩

/-- What a closing event records: a failure if it says so, else it was sent. -/
theorem Closing.outcome {a : Attempt} {event : RequestOp} {record : CallRecord} {q : FinishRequest}
    (closing : Closing settings a event record q) :
    (record.status.retryable = true → recordsFailure a event = true) ∧
      (record.status.retryable = false → a.seen.networkStartedAt.isSome) := by
  cases closing with
  | completed c sent _ => exact ⟨nofun, fun _ => sent⟩
  | failed f =>
    refine ⟨id, fun kept => ?_⟩
    simp only [CallFailure.record, CallFailure.status] at kept
    by_cases ambiguous : f.ambiguous a.seen a.reservation.isSome = true
    · simp only [CallFailure.ambiguous, Bool.and_eq_true] at ambiguous
      exact ambiguous.1.2
    · rw [if_neg ambiguous] at kept
      split at kept
      · cases kept
      · split at kept <;> cases kept
  | cancelled now sent _ =>
    refine ⟨fun failed => ?_, fun _ => sent⟩
    simp [cancelRecord, sent, CallStatus.retryable] at failed

/-- A request that is closed is one that ends. -/
theorem Closing.ends {a : Attempt} {e : Nat} {event : RequestOp} {record : CallRecord}
    {q : FinishRequest} {lease : ScanExecutionLease} (session : s.lease e = some lease)
    (taken : s.requests e = .taken a) (closing : Closing settings a event record q)
    (left : (s.apply settings (.request e event)).requests e = .idle) : Ends a event := by
  simp only [Fleet.apply, session, taken, Function.update_self] at left
  cases closing with
  | completed c sent reserved =>
    refine ⟨?_, reserved, sent⟩
    cases raised : a.raised with
    | false => rfl
    | true =>
      simp only [RequestOp.run, raised] at left
      cases left
  | failed f => exact trivial
  | cancelled now sent reserved =>
    refine ⟨?_, sent⟩
    cases raised : a.raised with
    | false => rfl
    | true =>
      simp only [RequestOp.run, raised] at left
      cases left

/-- A failed row that is reset is prepared, or answered from the cache. -/
theorem Fleet.Orderly.reset_columns (orderly : s.Orderly settings) {e i : Nat}
    {lease : ScanExecutionLease} {site : CallSite} {hit : Bool} {copy old : ApiCall} {p : Preparation}
    (found : s.calls[i]? = some old) (held : s.queue.leases[e]? = some lease)
    (carries : Carries s lease) (selected : s.requests e = .selected site hit (.retry i copy)) :
    old.status.retryable = true ∧ (ApiCall.flush copy (copy.retry p) old).status = p.status ∧
      (ApiCall.flush copy (copy.retry p) old).attemptState = p.attemptState ∧
      (ApiCall.flush copy (copy.retry p) old).networkStartedAt = none := by
  have copied := (orderly.fenced.filed.selected e site hit _ selected).1
  obtain ⟨failed, network⟩ := orderly.selections e site hit i copy lease old selected held carries found
  obtain ⟨unprepared, uncached, -⟩ := (orderly.copies e site hit i copy selected).failed copied
  refine ⟨failed, ?_, ?_, ?_⟩
  · have differs : p.status ≠ copy.status := by
      intro same
      rw [← same] at copied
      unfold Preparation.status at copied
      split at copied <;> cases copied
    simp [ApiCall.flush, ApiCall.retry, written, differs]
  · have differs : p.attemptState ≠ copy.attemptState := by
      unfold Preparation.attemptState
      split
      · exact Ne.symm uncached
      · exact Ne.symm unprepared
    simp [ApiCall.flush, ApiCall.retry, written, differs]
  · by_cases unsent : copy.networkStartedAt = none
    · simp [ApiCall.flush, ApiCall.retry, unsent, network unsent]
    · simp [ApiCall.flush, ApiCall.retry, written, Ne.symm unsent]

theorem Fleet.Orderly.move (orderly : s.Orderly settings) {op : FleetOp} {i : Nat}
    {old new : ApiCall} (found : s.calls[i]? = some old) (leased : ResetsLeased s op)
    (ends : EndsOwn s op) (move : CallMove settings s op i old new) :
    OrderlyMove settings s op i old new := by
  cases move with
  | kept same => exact .kept same
  | @reset e lease site hit copy token force response now event session selected left is =>
    subst event
    have carries : Carries s lease := by
      simp only [ResetsLeased, selected] at leased
      exact leased lease session
    obtain ⟨failed, status, state, network⟩ := orderly.reset_columns
      (p := preparation lease hit token force response now) found (lease_of_session session) carries
      selected
    subst is
    refine .reset rfl session carries selected left failed ?_ network rfl
    rw [status, state]
    cases hit
    · exact Or.inl ⟨rfl, rfl⟩
    · exact Or.inr ⟨rfl, rfl⟩
  | @reserved e lease _ _ _ now a r event session held taken row unreserved is =>
    have carries := carries_of_held held
    subst row
    have own := orderly.fenced.own session carries taken found
    obtain ⟨-, state, -, unsent⟩ := (orderly.fenced.filed.shaped e a taken).unreserved unreserved
    have was := (orderly.attempts e a old taken found own).unsent unsent
    refine .reserved session carries taken rfl own was ?_ ?_ ?_
    · rw [is]; simp [ApiCall.flush, ApiCall.reserve]
    · rw [is]; simp [ApiCall.flush, ApiCall.reserve, written, state]
    · rw [is]
      simp only [ApiCall.flush, ApiCall.reserve, written_unchanged]
      exact was.network
  | @submitted e lease now a r event session held taken row reserved unsent left is =>
    have carries := carries_of_held held
    subst row
    have own := orderly.fenced.own session carries taken found
    have was := (orderly.attempts e a old taken found own).unsent unsent
    obtain ⟨-, -, ⟨-, state, status⟩ | ⟨sent, -⟩⟩ :=
      (orderly.fenced.filed.shaped e a taken).reserved r reserved
    · refine .submitted session carries taken rfl own left was ?_ ?_ ?_
      · rw [is]; simp [ApiCall.flush, ApiCall.submit, written, status]
      · rw [is]; simp [ApiCall.flush, ApiCall.submit, written, state]
      · rw [is]; simp [ApiCall.flush, ApiCall.submit, written, unsent]
    · rw [unsent] at sent
      cases sent
  | @closed e lease event_ a record q event session taken row closing left is =>
    subst event
    subst row
    have finishes := closing.ends session taken left
    simp only [EndsOwn, taken] at ends
    obtain ⟨own, unsettled⟩ := ends finishes old found
    obtain ⟨status, ended⟩ := (orderly.fenced.filed.shaped e a taken).closed_columns closing old
    obtain ⟨failure, sent⟩ := closing.outcome
    rw [← status] at ended failure sent
    subst is
    exact .closed taken rfl own left ended (closedRow_network a old record q) sent
      (fun failed => unsettled (failure failed))
  | abandoned now opened is =>
    obtain ⟨status, network⟩ := abandoned_columns now old
    subst is
    exact .abandoned opened status network
  | resolved outcome actual note now _ awaits is =>
    simp only [ApiCall.awaitsOutcome, Bool.and_eq_true, decide_eq_true_eq] at awaits
    subst is
    refine .resolved awaits.1 ?_ rfl rfl
    cases outcome
    · exact Or.inl rfl
    · exact Or.inr rfl

/-! ## One step -/

/-- A lease the scan carries after a commit it carried before. -/
theorem Fleet.Fenced.carried_before (fenced : s.Fenced settings) {op : FleetOp}
    (fresh : s.FreshTokens op) {e : Nat} {lease : ScanExecutionLease}
    (held : s.queue.leases[e]? = some lease) (carries : Carries (s.apply settings op) lease) :
    Carries s lease := by
  obtain ⟨scan, there, carried⟩ := carries
  obtain same | ⟨event, rfl, queue⟩ := apply_queue settings s op
  · rw [same] at there
    exact ⟨scan, there, carried⟩
  · rw [queue] at there
    obtain ⟨old, found, ⟨moves, -⟩ | ⟨claim, -⟩⟩ :=
      Worker.apply_row_back fenced.queue.coherent event there
    · rcases moves.token with free | kept
      · rw [free] at carried
        cases carried
      · exact ⟨old, found, kept ▸ carried⟩
    · obtain ⟨worker, token, now, seconds, rfl, rfl⟩ := claim.op
      exact absurd (Option.some.inj carried).symm (fresh lease (List.mem_of_getElem? held))

/-- A scan carries the lease of one execution. -/
theorem Fleet.Fenced.carried_once (fenced : s.Fenced settings) {e e' : Nat}
    {lease lease' : ScanExecutionLease} (held : s.queue.leases[e]? = some lease)
    (held' : s.queue.leases[e']? = some lease') (scan : lease.scanId = lease'.scanId)
    (carries : Carries s lease) (carries' : Carries s lease') : e = e' := by
  obtain ⟨row, there, carried⟩ := carries
  obtain ⟨row', there', carried'⟩ := carries'
  have there : s.queue.scans[lease.scanId]? = some row := there
  have there' : s.queue.scans[lease'.scanId]? = some row' := there'
  rw [scan, there'] at there
  cases there
  exact fenced.queue.token_inj held held' (Option.some.inj (carried.symm.trans carried'))

/-- Two copies of one row are of one scan. -/
theorem CopyOf.scan_eq {scan scan' i : Nat} {copy copy' : ApiCall} (of : CopyOf s scan i copy)
    (of' : CopyOf s scan' i copy') : scan = scan' := by
  obtain ⟨row, there, run, -⟩ := of.stored
  obtain ⟨row', there', run', -⟩ := of'.stored
  rw [there] at there'
  cases there'
  exact Option.some.inj ((of.run.symm.trans run.symm).trans (run'.trans of'.run))

theorem Fleet.Orderly.agrees_apply (orderly : s.Orderly settings) {op : FleetOp}
    (leased : ResetsLeased s op) (ends : EndsOwn s op) {i : Nat} {new : ApiCall}
    (after : (s.apply settings op).calls[i]? = some new) : new.Agrees := by
  obtain ⟨old, found, move⟩ | ⟨e, site, hit, call, p, inserted, -, rfl⟩ :=
    apply_call_back orderly.fenced.filed.shaped op after
  · have agrees := orderly.agrees i old found
    cases orderly.move found leased ends move with
    | kept same => rw [same]; exact agrees
    | reset _ _ _ _ _ _ status _ _ =>
      rcases status with ⟨status, state⟩ | ⟨status, state⟩
      · simp only [ApiCall.Agrees, status]; exact Or.inl state
      · simp only [ApiCall.Agrees, status]; exact state
    | reserved _ _ _ _ _ was status state network =>
      rcases was.status with was | was <;> rw [was] at status
      · simp only [ApiCall.Agrees, status]; exact Or.inr state
      · simp only [ApiCall.Agrees, status]; exact Or.inr ⟨state, network⟩
    | submitted _ _ _ _ _ _ _ status state _ => simp only [ApiCall.Agrees, status]; exact state
    | closed _ _ _ _ ended _ _ _ =>
      unfold ApiCall.Agrees
      generalize new.status = status at ended
      generalize new.attemptState = state at ended
      cases ended <;> simp
    | abandoned _ status _ =>
      rcases status with ⟨-, status, state⟩ | ⟨-, status, state⟩
      · simp only [ApiCall.Agrees, status]; exact state
      · simp only [ApiCall.Agrees, status]; exact Or.inl state
    | resolved _ status state _ =>
      rcases status with status | status
      · simp only [ApiCall.Agrees, status]; exact Or.inr state
      · simp only [ApiCall.Agrees, status]; exact state
  · obtain ⟨lease, token, force, response, now, -, -, rfl⟩ := inserted.event
    cases hit
    · exact Or.inl rfl
    · rfl

/-- A new attempt of a row has its token alone. -/
theorem Fleet.Filed.reset_token (filed : s.Filed) {op : FleetOp} (fresh : s.FreshTokens op) {i : Nat}
    {old new : ApiCall} (move : CallMove settings s op i old new) {e : Nat} {copy : ApiCall}
    (at_ : (s.requests e).copy = some copy) (same : new.attemptToken = copy.attemptToken) :
    new.attemptToken = old.attemptToken := by
  obtain kept | ⟨e', lease, site, hit, row, token, force, response, now, event, -, selected, written_⟩ :=
    move.token
  · exact kept
  · rw [written_, filed.renewed event fresh (j := e') (by rw [selected]; rfl)] at same
    exact absurd same.symm (filed.copy_fresh event fresh at_)

/-- A submission marks the row of its own attempt. -/
theorem flush_submit {a : Attempt} (shaped : a.Shaped) (unsent : a.seen.networkStartedAt = none)
    (reserved : a.reservation.isSome) (now : DateTime) (stored : ApiCall) :
    (ApiCall.flush a.seen (a.seen.submit now) stored).status = .inFlight ∧
      (ApiCall.flush a.seen (a.seen.submit now) stored).attemptState = .inFlight ∧
      (ApiCall.flush a.seen (a.seen.submit now) stored).networkStartedAt = some now := by
  obtain ⟨r, reserved⟩ := Option.isSome_iff_exists.mp reserved
  obtain ⟨-, -, ⟨-, state, status⟩ | ⟨sent, -⟩⟩ := shaped.reserved r reserved
  · simp [ApiCall.flush, ApiCall.submit, written, state, status, unsent]
  · rw [unsent] at sent
    cases sent

theorem Fleet.Orderly.continued (orderly : s.Orderly settings) {op : FleetOp}
    (fresh : s.FreshTokens op) (leased : ResetsLeased s op) (ends : EndsOwn s op) {e : Nat}
    {a b : Attempt} {stored : ApiCall} (before : s.requests e = .taken b)
    (after : (s.apply settings op).requests e = .taken a)
    (continues : Continues s.calls (s.apply settings op).calls b a)
    (there : (s.apply settings op).calls[a.row]? = some stored)
    (own : stored.attemptToken = a.seen.attemptToken) : a.OnRow stored := by
  have filed := orderly.fenced.filed
  rw [continues.row] at there
  rw [continues.token] at own
  obtain ⟨row, at_, -⟩ := (filed.taken e b before).stored
  rcases continues.network with network | ⟨unsent, reserved, now, row', sent, at', set⟩
  · obtain ⟨old, found, move⟩ | ⟨_, _, _, _, _, _, last, -⟩ := apply_call_back filed.shaped op there
    · have mine := (filed.reset_token fresh move (e := e) (by rw [before]; rfl) own).symm.trans own
      have on := orderly.attempts e b old before found mine
      have same {e' : Nat} {a' : Attempt} (taken : s.requests e' = .taken a')
          (theirs : old.attemptToken = a'.seen.attemptToken) : e' = e :=
        orderly.distinct e' e a' b taken before (theirs.symm.trans mine)
      refine ⟨fun unsent => ?_, fun sent => ?_⟩
      · rw [network] at unsent
        have was := on.unsent unsent
        cases orderly.move found leased ends move with
        | kept same => rw [same]; exact was
        | reset event _ _ selected _ _ _ _ renewed =>
          rw [renewed, filed.renewed event fresh (by rw [selected]; rfl)] at own
          exact absurd own.symm (filed.copy_fresh event fresh (j := e) (by rw [before]; rfl))
        | reserved _ _ _ _ _ _ status state network' =>
          exact ⟨by rw [status]; exact was.status, Or.inr (Or.inl state), network'⟩
        | submitted _ _ taken _ theirs left =>
          obtain rfl := same taken theirs
          rw [after] at left
          cases left
          rw [← network] at unsent
          cases unsent
        | closed taken _ theirs left =>
          obtain rfl := same taken theirs
          rw [after] at left
          cases left
        | abandoned _ status network' =>
          have unsent' : old.maybeSent = false := by
            rcases was.state with state | state | state <;>
              simp [ApiCall.maybeSent, was.network, state]
          rcases status with ⟨sent, -⟩ | ⟨-, status, state⟩
          · rw [unsent'] at sent
            cases sent
          · exact ⟨Or.inr status, Or.inr (Or.inr state), network'.trans was.network⟩
        | resolved unknown =>
          rcases was.state with state | state | state <;> rw [state] at unknown <;> cases unknown
      · rw [network] at sent
        obtain ⟨started, kept⟩ := on.sent sent
        have unsent_false {row : ApiCall} (was : Unsent row) (same : row = old) : False := by
          subst same
          rw [was.network] at started
          cases started
        cases orderly.move found leased ends move with
        | kept same => rw [same]; exact ⟨started, kept⟩
        | reset _ _ _ _ _ failed _ _ _ =>
          rw [kept] at failed
          cases failed
        | reserved _ _ _ _ _ was _ _ _ => exact (unsent_false was rfl).elim
        | submitted _ _ _ _ _ _ was => exact (unsent_false was rfl).elim
        | closed taken _ theirs left =>
          obtain rfl := same taken theirs
          rw [after] at left
          cases left
        | abandoned _ status network' =>
          have sent' : old.maybeSent = true := by simp [ApiCall.maybeSent, started]
          rcases status with ⟨-, status, -⟩ | ⟨unsent', -⟩
          · exact ⟨by rw [network']; exact started, by rw [status]; rfl⟩
          · rw [sent'] at unsent'
            cases unsent'
        | resolved _ status _ network' =>
          refine ⟨by rw [network']; exact started, ?_⟩
          rcases status with status | status <;> rw [status] <;> rfl
    · have bound := (List.getElem?_eq_some_iff.mp at_).1
      omega
  · -- The request was marked submitted just now.
    obtain ⟨status, -, started⟩ := flush_submit (filed.shaped e b before) unsent reserved now row'
    rw [set, List.getElem?_set_self (List.getElem?_eq_some_iff.mp at').1] at there
    cases there
    refine ⟨fun unsent => ?_, fun _ => ⟨by rw [started]; rfl, by rw [status]; rfl⟩⟩
    rw [sent] at unsent
    cases unsent

/-- A row prepared anew is unsent. -/
theorem Fleet.Orderly.prepared_onRow (orderly : s.Orderly settings) {op : FleetOp}
    (leased : ResetsLeased s op) {e : Nat} {lease : ScanExecutionLease} {site : CallSite}
    {selection : Selection} {token : String} {force : Bool} {response : Option CachedResponse}
    {now : DateTime} {i : Nat} {row stored : ApiCall}
    (event : op = .request e (.prepare token force response now)) (session : s.lease e = some lease)
    (selected : s.requests e = .selected site false selection)
    (commits : commitCall s.calls site (preparation lease false token force response now) selection =
      some ((s.apply settings op).calls, i, row))
    (there : (s.apply settings op).calls[i]? = some stored) :
    (⟨site, i, row, none, false⟩ : Attempt).OnRow stored := by
  have unsent : row.networkStartedAt = none ∧ Unsent stored := by
    cases selection with
    | existing j => cases orderly.fenced.filed.selected e site false _ selected
    | retry j copy =>
      obtain ⟨old, found, rfl, rfl, set⟩ := commitCall_retry commits
      have carries : Carries s lease := by
        subst event
        simp only [ResetsLeased, selected] at leased
        exact leased lease session
      obtain ⟨-, status, state, network⟩ := orderly.reset_columns
        (p := preparation lease false token force response now) found (lease_of_session session)
        carries selected
      rw [set, List.getElem?_set_self (List.getElem?_eq_some_iff.mp found).1] at there
      cases there
      exact ⟨rfl, Or.inl status, Or.inl state, network⟩
    | insert call =>
      obtain ⟨-, rfl, rfl, added⟩ := commitCall_insert commits
      rw [added, List.getElem?_concat_length] at there
      cases there
      exact ⟨rfl, Or.inl rfl, Or.inl rfl, rfl⟩
  refine ⟨fun _ => unsent.2, fun sent => ?_⟩
  rw [unsent.1] at sent
  cases sent

/-- A session that holds the lease still finds the row it selected failed. -/
theorem Fleet.Orderly.still_failed (orderly : s.Orderly settings) {op : FleetOp}
    (fresh : s.FreshTokens op) (leased : ResetsLeased s op) (ends : EndsOwn s op) {e : Nat}
    {site : CallSite} {hit : Bool} {i : Nat} {copy stored : ApiCall} {lease : ScanExecutionLease}
    (before : s.requests e = .selected site hit (.retry i copy))
    (after : (s.apply settings op).requests e = .selected site hit (.retry i copy))
    (held : s.queue.leases[e]? = some lease) (carries : Carries (s.apply settings op) lease)
    (there : (s.apply settings op).calls[i]? = some stored) :
    stored.status.retryable = true ∧
      (copy.networkStartedAt = none → stored.networkStartedAt = none) := by
  have fenced := orderly.fenced
  have filed := fenced.filed
  have mine := fenced.carried_before fresh held carries
  have of := (filed.selected e site hit _ before).2
  obtain ⟨lease', held', scan⟩ := filed.owner e site (by rw [before]; rfl)
  rw [held] at held'
  cases held'
  -- No other session of the scan holds its lease.
  have alone {e' : Nat} {lease' : ScanExecutionLease} {scan' : Nat} {copy' : ApiCall}
      (session : s.lease e' = some lease') (carries' : Carries s lease')
      (site' : ∃ site', (s.requests e').site = some site' ∧ site'.scan = scan')
      (of' : CopyOf s scan' i copy') : e' = e := by
    obtain ⟨site', at', rfl⟩ := site'
    obtain ⟨lease'', held'', scan'⟩ := filed.owner e' site' at'
    rw [lease_of_session session] at held''
    cases held''
    exact fenced.carried_once (lease_of_session session) held
      (scan'.trans ((of'.scan_eq of).trans scan.symm)) carries' mine
  obtain ⟨old, found, move⟩ | ⟨_, _, _, _, _, _, last, -⟩ := apply_call_back filed.shaped op there
  · obtain ⟨failed, network⟩ := orderly.selections e site hit i copy lease old before held mine found
    cases orderly.move found leased ends move with
    | kept same => rw [same]; exact ⟨failed, network⟩
    | @reset e' _ site' _ _ _ _ _ _ _ session carries' selected left =>
      obtain rfl := alone session carries' ⟨site', by rw [selected]; rfl, rfl⟩
        (filed.selected e' site' _ _ selected).2
      exact absurd after (left site hit _)
    | @reserved e' _ a session carries' taken row =>
      subst row
      obtain rfl := alone session carries' ⟨a.site, by rw [taken]; rfl, rfl⟩ (filed.taken e' a taken)
      rw [before] at taken
      cases taken
    | @submitted e' _ a _ session carries' taken row =>
      subst row
      obtain rfl := alone session carries' ⟨a.site, by rw [taken]; rfl, rfl⟩ (filed.taken e' a taken)
      rw [before] at taken
      cases taken
    | @closed e' a taken row own _ _ network' sent _ =>
      subst row
      cases failure : stored.status.retryable with
      | true => exact ⟨rfl, fun unsent => network'.trans (network unsent)⟩
      | false =>
        have kept := ((orderly.attempts e' a old taken found own).sent (sent failure)).2
        rw [kept] at failed
        cases failed
    | abandoned opened status network' =>
      have unsent := (orderly.agrees i old found).failed failed
      rcases status with ⟨sent, -⟩ | ⟨-, status, -⟩
      · rw [unsent.2.2.2 opened] at sent
        cases sent
      · exact ⟨by rw [status]; rfl, fun unsent => network'.trans (network unsent)⟩
    | resolved unknown =>
      exact absurd unknown ((orderly.agrees i old found).failed failed).2.2.1
  · obtain ⟨row, at_, -⟩ := of.stored
    have bound := (List.getElem?_eq_some_iff.mp at_).1
    omega

theorem Fleet.Orderly.apply (orderly : s.Orderly settings) {op : FleetOp} (fresh : s.FreshTokens op)
    (leased : ResetsLeased s op) (ends : EndsOwn s op) : (s.apply settings op).Orderly settings where
  fenced := orderly.fenced.apply fresh leased
  distinct := by
    intro e e' a a' after after' same
    have filed := orderly.fenced.filed
    have renewed {e e' : Nat} {a b : Attempt} {lease : ScanExecutionLease} {site : CallSite}
        {selection : Selection} {token : String} {force : Bool} {response : Option CachedResponse}
        {now : DateTime} {i : Nat} {row : ApiCall}
        (event : op = .request e (.prepare token force response now))
        (selected : s.requests e = .selected site false selection)
        (commits : commitCall s.calls site (preparation lease false token force response now)
          selection = some ((s.apply settings op).calls, i, row)) (is : a = ⟨site, i, row, none, false⟩)
        (before : s.requests e' = .taken b) : a.seen.attemptToken ≠ b.seen.attemptToken := by
      obtain ⟨stored, there, -⟩ := (filed.prepared selected commits).1.stored
      have mine := (filed.prepared_token event fresh selected commits there).1
      rw [is, mine]
      exact (filed.copy_fresh event fresh (j := e') (by rw [before]; rfl)).symm
    obtain ⟨b, before, continues⟩ | ⟨_, _, _, _, _, _, _, _, _, event, -, selected, commits, is⟩ :=
        taken_back filed.shaped after <;>
      obtain ⟨b', before', continues'⟩ | ⟨_, _, _, _, _, _, _, _, _, event', -, selected', commits', is'⟩ :=
        taken_back filed.shaped after'
    · rw [continues.token, continues'.token] at same
      exact orderly.distinct e e' b b' before before' same
    · rw [continues.token] at same
      exact absurd same.symm (renewed event' selected' commits' is' before)
    · rw [continues'.token] at same
      exact absurd same (renewed event selected commits is before')
    · rw [event] at event'
      cases event'
      rfl
  agrees := fun i row after => orderly.agrees_apply leased ends after
  copies := by
    intro e site hit i copy after
    obtain before | ⟨lease, -, -, chosen, -, -⟩ := selected_back orderly.fenced.filed.shaped after
    · exact orderly.copies e site hit i copy before
    · exact orderly.agrees i copy (selectCall_cases chosen).1
  attempts := by
    intro e a stored after there own
    obtain ⟨b, before, continues⟩ | ⟨lease, site, selection, token, force, response, now, i, row, event,
        session, selected, commits, rfl⟩ := taken_back orderly.fenced.filed.shaped after
    · exact orderly.continued fresh leased ends before after continues there own
    · exact orderly.prepared_onRow leased event session selected commits there
  selections := by
    intro e site hit i copy lease stored after held carries there
    obtain before | ⟨lease', -, -, chosen, -, calls⟩ := selected_back orderly.fenced.filed.shaped after
    · obtain ⟨mine, held', -⟩ := orderly.fenced.filed.owner e site (by rw [before]; rfl)
      rw [lease_kept settings op held'] at held
      cases held
      exact orderly.still_failed fresh leased ends before after held' carries there
    · obtain ⟨found, failed, -⟩ := selectCall_cases chosen
      rw [calls, found] at there
      cases there
      exact ⟨failed, id⟩

/-- A settled row stays settled. -/
theorem Fleet.Orderly.settled_kept (orderly : s.Orderly settings) {op : FleetOp} {i : Nat}
    {old new : ApiCall} (found : s.calls[i]? = some old) (leased : ResetsLeased s op)
    (ends : EndsOwn s op) (move : CallMove settings s op i old new)
    (settled : old.status.settled = true) : new.status.settled = true := by
  have unsent_false (was : Unsent old) : False := by
    rcases was.status with status | status <;> rw [status] at settled <;> cases settled
  cases orderly.move found leased ends move with
  | kept same => rw [same]; exact settled
  | reset _ _ _ _ _ failed =>
    generalize old.status = status at settled failed
    cases status <;> simp [CallStatus.settled, CallStatus.retryable] at settled failed
  | reserved _ _ _ _ _ was => exact (unsent_false was).elim
  | submitted _ _ _ _ _ _ was => exact (unsent_false was).elim
  | closed _ _ _ _ ended _ _ unsettled =>
    generalize new.status = status at ended unsettled
    generalize new.attemptState = state at ended
    rw [settled] at unsettled
    cases ended with
    | completed => rfl
    | unknown => rfl
    | failed => cases unsettled rfl
    | failedBeforeNetwork => cases unsettled rfl
    | blocked => cases unsettled rfl
  | abandoned opened =>
    rw [(orderly.agrees i old found).closed settled] at opened
    cases opened
  | resolved _ status =>
    rcases status with status | status <;> rw [status] <;> rfl

theorem Fleet.Ready.orderly (ready : s.Ready settings) (agrees : ∀ row ∈ s.calls, row.Agrees) :
    s.Orderly settings where
  fenced := ready.fenced
  distinct := fun e e' a a' at_ => by rw [ready.idle e] at at_; cases at_
  agrees := fun i row found => agrees row (List.mem_of_getElem? found)
  copies := fun e site hit i copy at_ => by rw [ready.idle e] at at_; cases at_
  attempts := fun e a stored at_ => by rw [ready.idle e] at at_; cases at_
  selections := fun e site hit i copy lease stored at_ => by rw [ready.idle e] at at_; cases at_

end Steps

/-! ## Submissions -/

/-- The row that `mark_provider_call_submitted` marks for a session before its
request goes out. -/
def Fleet.marks (s : Fleet) (e : Nat) (now : DateTime) : Option Nat :=
  match s.lease e, s.requests e with
  | some lease, .taken a =>
    match a.raised, a.reservation, a.seen.networkStartedAt with
    | false, some r, none =>
      match markProviderCallSubmitted s.db (some a.seen) r (some lease) now with
      | .ok _ => some a.row
      | .error _ => none
    | _, _, _ => none
  | _, _ => none

theorem marks_some {s : Fleet} {e : Nat} {now : DateTime} {i : Nat} (marks : s.marks e now = some i) :
    ∃ lease a, s.lease e = some lease ∧ s.requests e = .taken a ∧ a.row = i ∧
      a.seen.networkStartedAt = none ∧ LeaseHeld s.db (some lease) now := by
  unfold Fleet.marks at marks
  split at marks
  · rename_i lease a session taken
    split at marks
    · rename_i unsent
      split at marks
      · rename_i db marked
        cases marks
        exact ⟨lease, a, session, taken, rfl, unsent, (markProviderCallSubmitted_ok marked).1⟩
      · cases marks
    · cases marks
  · cases marks

/-- A commit of a run in which failed rows are reset under the lease of their
scan and requests that end find their own attempt. -/
def Careful (s : Fleet) (op : FleetOp) : Prop := s.FreshTokens op ∧ ResetsLeased s op ∧ EndsOwn s op

/-- In every such run a submission is made on the row of a planned request of its
scan, there is one row for each, and once it is settled its request is not
submitted again. -/
theorem settled_request_not_sent_again (settings : Settings) {start s t : Fleet}
    (ready : start.Ready settings) (agrees : ∀ row ∈ start.calls, row.Agrees)
    (run : Runs.Reaches Careful (Fleet.Step settings) start s)
    (later : Runs.Reaches Careful (Fleet.Step settings) s t) :
    (∀ e now i, t.marks e now = some i → ∃ lease row call, t.lease e = some lease ∧
      t.calls[i]? = some row ∧ call ∈ t.plan ∧ call.scanRunId = lease.scanId ∧
      standsFor row lease.scanId call.plannedRequestId = true) ∧
    (∀ (i j : Nat) row other scan id, t.calls[i]? = some row → t.calls[j]? = some other →
      standsFor row scan id = true → standsFor other scan id = true → i = j) ∧
    ∀ (i : Nat) row scan id, s.calls[i]? = some row → standsFor row scan id = true →
      row.status.settled = true → ∀ e now j after, t.marks e now = some j →
        t.calls[j]? = some after → standsFor after scan id = false := by
  have kept : ∀ s op t, s.Orderly settings → Careful s op → Fleet.Step settings s op t →
      t.Orderly settings := by
    rintro s op t orderly ⟨fresh, leased, ends⟩ rfl
    exact orderly.apply fresh leased ends
  have orderly := run.invariant kept (ready.orderly agrees)
  have ends := later.invariant kept orderly
  refine ⟨fun e now i marks => ?_, ends.fenced.filed.unique, ?_⟩
  · obtain ⟨lease, a, session, taken, rfl, -, -⟩ := marks_some marks
    obtain ⟨mine, held, scan⟩ := ends.fenced.filed.owner e a.site (by rw [taken]; rfl)
    rw [lease_of_session session] at held
    cases held
    have of := ends.fenced.filed.taken e a taken
    obtain ⟨call, member, planned, id⟩ := of.planned
    obtain ⟨row, there, run, request⟩ := of.stored
    refine ⟨lease, row, call, session, there, member, planned.trans scan.symm, ?_⟩
    rw [standsFor_iff, scan]
    exact ⟨run.trans of.run, request.trans id⟩
  · intro i row scan id found stands settled e now j after marks there
    have stays : t.Orderly settings ∧ ∃ row, t.calls[i]? = some row ∧ standsFor row scan id = true ∧
        row.status.settled = true := by
      refine later.invariant (I := fun u => u.Orderly settings ∧ ∃ row, u.calls[i]? = some row ∧
        standsFor row scan id = true ∧ row.status.settled = true) ?_
        ⟨orderly, row, found, stands, settled⟩
      rintro u op v ⟨orderly, row, found, stands, settled⟩ ⟨fresh, leased, ends⟩ rfl
      obtain ⟨new, after, move⟩ := apply_call settings orderly.fenced.filed.shaped op found
      exact ⟨orderly.apply fresh leased ends, new, after, (move.standsFor scan id).trans stands,
        orderly.settled_kept found leased ends move settled⟩
    obtain ⟨-, row', found', stands', settled'⟩ := stays
    refine Bool.eq_false_iff.mpr fun same => ?_
    obtain ⟨lease, a, session, taken, rfl, unsent, held⟩ := marks_some marks
    obtain rfl := ends.fenced.filed.unique a.row i after row' scan id there found' same stands'
    rw [there] at found'
    cases found'
    have own := ends.fenced.own session (carries_of_held held) taken there
    have was := (ends.attempts e a after taken there own).unsent unsent
    rcases was.status with status | status <;> rw [status] at settled' <;> cases settled'

instance (a : Attempt) : (event : RequestOp) → Decidable (Ends a event)
  | .complete _ => inferInstanceAs (Decidable (_ ∧ _ ∧ _))
  | .fail _ => inferInstanceAs (Decidable True)
  | .cancel _ => inferInstanceAs (Decidable (_ ∧ _))
  | .select .. | .prepare .. | .reserve .. | .submit .. => inferInstanceAs (Decidable False)

instance (s : Fleet) : (op : FleetOp) → Decidable (EndsOwn s op)
  | .request e event =>
    match at_ : s.requests e with
    | .taken a =>
      decidable_of_iff (Ends a event → ∀ stored ∈ s.calls[a.row]?,
        stored.attemptToken = a.seen.attemptToken ∧
          (recordsFailure a event = true → stored.status.settled = false))
        (by simp only [EndsOwn, at_])
    | .idle | .selected .. => isTrue (by simp only [EndsOwn, at_])
  | .work .. | .reconcile .. | .resolve .. => inferInstanceAs (Decidable True)

instance (s : Fleet) (op : FleetOp) : Decidable (Careful s op) :=
  inferInstanceAs (Decidable (_ ∧ _ ∧ _))

/-- One queued testing scan with two planned requests. -/
def twoPlanned : Fleet :=
  { onePlanned with plan := [⟨0, "req-001", "dataforseo", "serp", "k1", true, 1⟩,
      ⟨0, "req-002", "dataforseo", "serp", "k2", true, 1⟩] }

theorem twoPlanned_ready : twoPlanned.Ready Settings.live :=
  ⟨onePlanned_ready.queued, onePlanned_ready.idle, onePlanned_ready.unique⟩

/-- The first request is answered. -/
def firstAnswered : List FleetOp :=
  [.work (.claim 0 "w1" "t1" 0 30), .work (.load 0 0), .work (.start 0 .testing true .manualAsync 1),
    .request 0 (.select "dataforseo" "serp" "k1" false .sandbox 2),
    .request 0 (.prepare "a1" false none 3), .request 0 (.reserve .sandbox "v1" .testing 4),
    .request 0 (.submit 5), .request 0 (.complete ⟨⟨0, none, none⟩, none, "k1", 0, 6⟩)]

/-- The second is prepared and reserved. -/
def secondReserved : List FleetOp :=
  [.request 0 (.select "dataforseo" "serp" "k2" false .sandbox 7),
    .request 0 (.prepare "a2" false none 8), .request 0 (.reserve .sandbox "v1" .testing 9)]

def afterFirst : Fleet := firstAnswered.foldl (Fleet.apply Settings.live) twoPlanned

def beforeSecond : Fleet := secondReserved.foldl (Fleet.apply Settings.live) afterFirst

theorem firstAnswered_careful :
    Runs.Allowed Careful (Fleet.apply Settings.live) twoPlanned firstAnswered := by
  decide +kernel

theorem secondReserved_careful :
    Runs.Allowed Careful (Fleet.apply Settings.live) afterFirst secondReserved := by
  decide +kernel

/-- The next submission is of the second request. -/
theorem second_request_sent : beforeSecond.marks 0 10 = some 1 ∧
    ∀ after, beforeSecond.calls[1]? = some after → standsFor after 0 "req-001" = false := by
  have settled : afterFirst.calls[0]?.map (fun row => (standsFor row 0 "req-001", row.status.settled)) =
      some (true, true) := by decide +kernel
  have marks : beforeSecond.marks 0 10 = some 1 := by decide +kernel
  obtain ⟨row, found, is⟩ := Option.map_eq_some_iff.mp settled
  obtain ⟨stands, settled⟩ := Prod.mk.inj is
  refine ⟨marks, fun after there => ?_⟩
  exact (settled_request_not_sent_again Settings.live twoPlanned_ready (fun _ member => by cases member)
    firstAnswered_careful.reaches secondReserved_careful.reaches).2.2 0 row 0 "req-001" found stands settled 0 10 1 after marks there

/-- A request is written off as unknown while its worker, alive, waits for it. -/
def writtenOff : List FleetOp :=
  [.work (.claim 0 "w1" "t1" 0 30), .work (.load 0 0), .work (.start 0 .testing true .manualAsync 1),
    .request 0 (.select "dataforseo" "serp" "k" false .sandbox 2),
    .request 0 (.prepare "a1" false none 3), .request 0 (.reserve .sandbox "v1" .testing 4),
    .request 0 (.submit 5), .work (.heartbeat 0 20 30), .work (.heartbeat 0 34 30), .reconcile 5 35]

/-- The provider answers with a server error, the scan is retried, and a second
worker takes the request up again. -/
def takenUpAgain : List FleetOp :=
  [.request 0 (.fail ⟨"DataForSEOError", "DataForSEO transient HTTP 500.", false, false, false, true,
      none, 40⟩),
    .work (.fail 0 ⟨.dataForSEO, "DataForSEO transient HTTP 500."⟩ 0 41), .work (.final 0 42 0),
    .work (.claim 0 "w2" "t2" 100 30), .work (.load 1 0),
    .work (.start 1 .testing true .manualAsync 101),
    .request 1 (.select "dataforseo" "serp" "k" false .sandbox 102),
    .request 1 (.prepare "a2" false none 103), .request 1 (.reserve .sandbox "v1" .testing 104)]

def unknownState : Fleet := writtenOff.foldl (Fleet.apply Settings.live) onePlanned

def againState : Fleet := takenUpAgain.foldl (Fleet.apply Settings.live) unknownState

example : unknownState.calls.length = againState.calls.length := by decide +kernel

theorem writtenOff_fresh :
    Runs.Allowed Fleet.FreshTokens (Fleet.apply Settings.live) onePlanned writtenOff := by
  decide +kernel

theorem takenUpAgain_fresh :
    Runs.Allowed Fleet.FreshTokens (Fleet.apply Settings.live) unknownState takenUpAgain := by
  decide +kernel

theorem unknown_request_sent_again :
    ¬ ∀ (start s t : Fleet), start.Ready Settings.live → (∀ row ∈ start.calls, row.Agrees) →
      Runs.Reaches Fleet.FreshTokens (Fleet.Step Settings.live) start s →
      Runs.Reaches Fleet.FreshTokens (Fleet.Step Settings.live) s t →
      ∀ (i : Nat) row scan id, s.calls[i]? = some row → standsFor row scan id = true →
        row.status.settled = true → ∀ e now j after, t.marks e now = some j →
          t.calls[j]? = some after → standsFor after scan id = false := by
  intro claimed
  have settled : unknownState.calls[0]?.map (fun row => (standsFor row 0 "req-001", row.status.settled)) =
      some (true, true) := by decide +kernel
  have stands : againState.calls[0]?.map (fun row => standsFor row 0 "req-001") = some true := by
    decide +kernel
  have marks : againState.marks 1 105 = some 0 := by decide +kernel
  obtain ⟨row, found, is⟩ := Option.map_eq_some_iff.mp settled
  obtain ⟨mine, settled⟩ := Prod.mk.inj is
  obtain ⟨after, there, stands⟩ := Option.map_eq_some_iff.mp stands
  have never := claimed onePlanned unknownState againState onePlanned_ready
    (fun _ member => by cases member) writtenOff_fresh.reaches takenUpAgain_fresh.reaches
    0 row 0 "req-001" found mine settled 1 105 0 after marks there
  rw [never] at stands
  cases stands

end Provider

end RankRent
