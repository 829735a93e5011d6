import RankRent.Provider.Sessions
import RankRent.Worker.Recovery

/-!
# Moves of a call row

What any commit of the workers can do to a row of `api_calls` and to the request
of a session.
-/

namespace RankRent.Provider

open CostControls

/-! ## Events of a request -/

/-- How far the copy of a row is: prepared, reserved, or submitted. -/
structure Attempt.Shaped (a : Attempt) : Prop where
  unreserved : a.reservation = none → a.seen.reservationState = .none ∧
    a.seen.attemptState = .prepared ∧ a.seen.status = .prepared ∧ a.seen.networkStartedAt = none
  reserved : ∀ r, a.reservation = some r → r.apiCallId = some a.row ∧
    a.seen.reservationState = .reserved ∧
    (a.seen.networkStartedAt = none ∧ a.seen.attemptState = .reserved ∧ a.seen.status = .prepared ∨
      a.seen.networkStartedAt.isSome ∧ a.seen.attemptState = .inFlight ∧ a.seen.status = .inFlight)

theorem Attempt.Shaped.reserved_of_sent {a : Attempt} (shaped : a.Shaped)
    (sent : a.seen.networkStartedAt.isSome) : a.reservation.isSome := by
  cases reservation : a.reservation with
  | some r => rfl
  | none =>
    rw [(shaped.unreserved reservation).2.2.2] at sent
    cases sent

/-- The end of a request, by the handler that runs. -/
inductive Closing (settings : Settings) (a : Attempt) : RequestOp → CallRecord → FinishRequest → Prop
  | completed (c : CallCompletion) (sent : a.seen.networkStartedAt.isSome)
      (reserved : a.reservation.isSome) :
      Closing settings a (.complete c) c.record (c.request settings)
  | failed (f : CallFailure) :
      Closing settings a (.fail f) (f.record a.seen a.reservation.isSome)
        (f.request a.seen a.reservation.isSome)
  | cancelled (now : DateTime) (sent : a.seen.networkStartedAt.isSome)
      (reserved : a.reservation.isSome) :
      Closing settings a (.cancel now) (cancelRecord a.seen now) (cancelRequest a.seen now)

/-- Every way an event moves a request, with the rows it leaves. -/
inductive RequestMove (settings : Settings) (plan : List ScanPlanCall) (lease : ScanExecutionLease)
    (db : Database) : RequestOp → RequestState → Database → RequestState → Prop
  | waits (op : RequestOp) (state : RequestState) : RequestMove settings plan lease db op state db state
  /-- No planned request is left, or the unique constraint refuses the row. -/
  | refused {op : RequestOp} {state : RequestState} (untaken : ∀ a, state ≠ .taken a)
      (usage : List ProviderDailyUsage)
      (spend : summarySpend usage = summarySpend db.usage) :
      RequestMove settings plan lease db op state { db with usage := usage } .idle
  | selects {op : RequestOp} {site : CallSite} {hit : Bool} {selection : Selection}
      (scan : site.scan = lease.scanId) (chosen : selectCall plan db.calls site hit = some selection) :
      RequestMove settings plan lease db op .idle db (.selected site hit selection)
  | prepares {site : CallSite} {hit : Bool} {selection : Selection} {token : String} {force : Bool}
      {response : Option CachedResponse} {now : DateTime} {calls : List ApiCall} {i : Nat}
      {row : ApiCall}
      (commits : commitCall db.calls site (preparation lease hit token force response now) selection =
        some (calls, i, row)) :
      RequestMove settings plan lease db (.prepare token force response now)
        (.selected site hit selection) { db with calls := calls }
        (if hit then .idle else .taken ⟨site, i, row, none, false⟩)
  /-- The reservation or the submission is refused; locked buckets stay. -/
  | raises {op : RequestOp} {a : Attempt} (usage : List ProviderDailyUsage)
      (spend : summarySpend usage = summarySpend db.usage) :
      RequestMove settings plan lease db op (.taken a) { db with usage := usage }
        (.taken { a with raised := true })
  | reserves {environment : ApiEnvironment} {version : String} {profile : ScanProfile}
      {now : DateTime} {a : Attempt} {stored : ApiCall} {r : UsageReservation}
      (held : LeaseHeld db (some lease) now) (unreserved : a.reservation = none)
      (there : db.calls[a.row]? = some stored) (target : r.apiCallId = some a.row)
      (usage : List ProviderDailyUsage)
      (spend : summarySpend usage = summarySpend db.usage) :
      RequestMove settings plan lease db (.reserve environment version profile now) (.taken a)
        { db with
          usage := usage
          calls := db.calls.set a.row (ApiCall.flush a.seen
            (a.seen.reserve r.usageDate r.usageClass r.estimatedCost) stored) }
        (.taken { a with
          seen := a.seen.reserve r.usageDate r.usageClass r.estimatedCost
          reservation := some r })
  | submits {now : DateTime} {a : Attempt} {stored : ApiCall} {r : UsageReservation}
      (held : LeaseHeld db (some lease) now) (reserved : a.reservation = some r)
      (unsent : a.seen.networkStartedAt = none) (there : db.calls[a.row]? = some stored) :
      RequestMove settings plan lease db (.submit now) (.taken a)
        { db with calls := db.calls.set a.row (ApiCall.flush a.seen (a.seen.submit now) stored) }
        (.taken { a with seen := a.seen.submit now })
  | closes {op : RequestOp} {a : Attempt} {record : CallRecord} {q : FinishRequest}
      (closing : Closing settings a op record q) :
      RequestMove settings plan lease db op (.taken a)
        (closeCall db a.row a.seen a.reservation record q) .idle

theorem summarySpend_lockedUsage (db : Database) (q : ReserveRequest) :
    summarySpend (lockedUsage db q).usage = summarySpend db.usage :=
  summarySpend_postBuckets_of_eq keepsKey_id (fun _ => rfl) _ _ _ _ _

theorem summarySpend_grantedUsage (db : Database) (q : ReserveRequest) :
    summarySpend (grantedUsage db q).usage = summarySpend db.usage := by
  have granted := summarySpend_postBuckets_of_eq (keepsKey_reserve q.estimatedCost q.cacheMiss)
    (fun _ => rfl) (lockedUsage db q).usage (date q.now) (usageClass q.environment) q.provider q.endpoint
  exact granted.trans (summarySpend_lockedUsage db q)

section Run
variable (settings : Settings) (plan : List ScanPlanCall) (lease : ScanExecutionLease) (db : Database)

theorem reserve_move (a : Attempt) (environment : ApiEnvironment) (version : String)
    (profile : ScanProfile) (now : DateTime) :
    RequestMove settings plan lease db (.reserve environment version profile now) (.taken a)
      (RequestOp.run settings plan lease db (.taken a) (.reserve environment version profile now)).1
      (RequestOp.run settings plan lease db (.taken a)
        (.reserve environment version profile now)).2 := by
  simp only [RequestOp.run]
  split
  · exact .waits _ _
  · rename_i ready
    have unreserved : a.reservation = none := by
      simp only [not_or, Bool.not_eq_true, Option.isSome_eq_false_iff, Option.isNone_iff_eq_none] at ready
      exact ready.2
    let q := a.reserveRequest lease environment version profile now
    obtain ⟨error, refused⟩ | ⟨error, refused⟩ | ⟨held, sees, -, granted⟩ :=
      reserveProviderCall_cases settings db (some a.seen) q
    · simp only [q] at refused
      simp only [refused]
      exact .raises db.usage rfl
    · simp only [q] at refused
      simp only [refused]
      exact .raises _ (summarySpend_lockedUsage db q)
    · simp only [q] at granted
      simp only [granted]
      obtain ⟨row, found, -⟩ := sees a.row rfl
      obtain ⟨stored, there, rfl⟩ := Option.map_eq_some_iff.mp found
      have kept : (grantedUsage db q).calls[a.row]? = some stored := there
      have seen : (grantedUsage db q).getCall (some a.seen) a.row = some a.seen := by
        simp [Database.getCall, kept]
      have row : reserveRow (grantedUsage db q) (some a.seen) q =
          { db with
            usage := (grantedUsage db q).usage
            calls := db.calls.set a.row (ApiCall.flush a.seen
              (a.seen.reserve (date q.now) (usageClass q.environment) q.estimatedCost) stored) } := by
        have target : q.apiCallId = some a.row := rfl
        simp only [reserveRow, target, seen, Database.putCall_of_get kept, Option.getD_some]
        rfl
      rw [row]
      exact .reserves (r := ⟨date q.now, usageClass q.environment, q.provider, q.endpoint,
        q.estimatedCost, q.apiCallId⟩) held unreserved there rfl _ (summarySpend_grantedUsage db q)

theorem submit_move {a : Attempt} (shaped : a.Shaped) (now : DateTime) :
    RequestMove settings plan lease db (.submit now) (.taken a)
      (RequestOp.run settings plan lease db (.taken a) (.submit now)).1
      (RequestOp.run settings plan lease db (.taken a) (.submit now)).2 := by
  simp only [RequestOp.run]
  split
  · rename_i r _ reserved unsent
    cases marked : markProviderCallSubmitted db (some a.seen) r (some lease) now with
    | error e => exact .raises db.usage rfl
    | ok left =>
      obtain ⟨held, ⟨none, -⟩ | ⟨i, row, target, found, -, -, rfl⟩⟩ :=
        markProviderCallSubmitted_ok marked
      · rw [(shaped.reserved r reserved).1] at none
        cases none
      · rw [(shaped.reserved r reserved).1] at target
        cases target
        obtain ⟨stored, there, rfl⟩ := Option.map_eq_some_iff.mp found
        simp only [Database.putCall_of_get there, Option.getD_some]
        exact .submits held reserved unsent there
  · exact .waits _ _

/-- An event of a request is one of these moves. -/
theorem run_move {state : RequestState} (shaped : ∀ a, state = .taken a → a.Shaped)
    (op : RequestOp) :
    RequestMove settings plan lease db op state (op.run settings plan lease db state).1
      (op.run settings plan lease db state).2 := by
  cases state with
  | idle =>
    cases op with
    | select provider endpoint key hit environment now =>
      simp only [RequestOp.run]
      split
      · refine .refused (by intro a is; cases is) _ ?_
        apply summarySpend_postBuckets_of_eq
        · intro b; rfl
        · intro b; rfl
      · rename_i selection chosen
        exact .selects rfl chosen
    | _ => exact .waits _ _
  | selected site hit selection =>
    cases op with
    | prepare token force response now =>
      simp only [RequestOp.run]
      split
      · exact .refused (by intro a is; cases is) db.usage rfl
      · rename_i calls i row commits
        exact .prepares commits
    | _ => exact .waits _ _
  | taken a =>
    cases op with
    | reserve environment version profile now => exact reserve_move settings plan lease db a _ _ _ _
    | submit now => exact submit_move settings plan lease db (shaped a rfl) now
    | complete c =>
      simp only [RequestOp.run]
      split
      · rename_i r sent _ reserved at_
        have closes : RequestMove settings plan lease db (.complete c) (.taken a)
            (closeCall db a.row a.seen a.reservation c.record (c.request settings)) .idle :=
          .closes (.completed c (by simp [at_]) (by simp [reserved]))
        rw [reserved] at closes
        exact closes
      · exact .waits _ _
    | fail f => exact .closes (.failed f)
    | cancel now =>
      simp only [RequestOp.run]
      split
      · rename_i sent _ at_
        have sent : a.seen.networkStartedAt.isSome := by simp [at_]
        have reserved := (shaped a rfl).reserved_of_sent sent
        have closes : RequestMove settings plan lease db (.cancel now) (.taken a)
            (closeCall db a.row a.seen a.reservation (cancelRecord a.seen now)
              (cancelRequest a.seen now)) .idle :=
          .closes (.cancelled now sent reserved)
        obtain ⟨r, some⟩ := Option.isSome_iff_exists.mp reserved
        rw [some] at closes ⊢
        exact closes
      · exact .waits _ _
    | _ => exact .waits _ _

end Run

/-! ## Rows -/

/-- The stored row after the end of a request. -/
def Attempt.closedRow (a : Attempt) (stored : ApiCall) (record : CallRecord) (q : FinishRequest) :
    ApiCall :=
  match a.reservation with
  | none => ApiCall.flush a.seen (a.seen.finish record) stored
  | some _ => Provider.closedRow a.seen stored record q

theorem Attempt.Shaped.closeCall_calls {a : Attempt} (shaped : a.Shaped) {db : Database}
    {stored : ApiCall} (there : db.calls[a.row]? = some stored) (record : CallRecord)
    (q : FinishRequest) :
    (closeCall db a.row a.seen a.reservation record q).calls =
      db.calls.set a.row (a.closedRow stored record q) := by
  unfold Attempt.closedRow
  cases reservation : a.reservation with
  | none => simp only [closeCall, Database.putCall_of_get there, Option.getD_some]
  | some r =>
    obtain ⟨target, state, -⟩ := shaped.reserved r reservation
    rw [closeCall_open there target (by rw [state]; rfl)]

/-- Every way a commit changes a row of `api_calls`. -/
inductive CallMove (settings : Settings) (s : Fleet) (op : FleetOp) (i : Nat) (old new : ApiCall) :
    Prop
  | kept (same : new = old)
  | reset {e : Nat} {lease : ScanExecutionLease} {site : CallSite} {hit : Bool} {row : ApiCall}
      {token : String} {force : Bool} {response : Option CachedResponse} {now : DateTime}
      (event : op = .request e (.prepare token force response now)) (leased : s.lease e = some lease)
      (selected : s.requests e = .selected site hit (.retry i row))
      (left : ∀ site hit selection, (s.apply settings op).requests e ≠ .selected site hit selection)
      (is : new = ApiCall.flush row (row.retry (preparation lease hit token force response now)) old)
  | reserved {e : Nat} {lease : ScanExecutionLease} {environment : ApiEnvironment}
      {version : String} {profile : ScanProfile} {now : DateTime} {a : Attempt} {r : UsageReservation}
      (event : op = .request e (.reserve environment version profile now))
      (leased : s.lease e = some lease) (held : LeaseHeld s.db (some lease) now)
      (taken : s.requests e = .taken a) (row : a.row = i) (unreserved : a.reservation = none)
      (is : new = ApiCall.flush a.seen (a.seen.reserve r.usageDate r.usageClass r.estimatedCost) old)
  | submitted {e : Nat} {lease : ScanExecutionLease} {now : DateTime} {a : Attempt}
      {r : UsageReservation} (event : op = .request e (.submit now)) (leased : s.lease e = some lease)
      (held : LeaseHeld s.db (some lease) now) (taken : s.requests e = .taken a) (row : a.row = i)
      (reserved : a.reservation = some r) (unsent : a.seen.networkStartedAt = none)
      (left : (s.apply settings op).requests e = .taken { a with seen := a.seen.submit now })
      (is : new = ApiCall.flush a.seen (a.seen.submit now) old)
  | closed {e : Nat} {lease : ScanExecutionLease} {event_ : RequestOp} {a : Attempt}
      {record : CallRecord} {q : FinishRequest} (event : op = .request e event_)
      (leased : s.lease e = some lease) (taken : s.requests e = .taken a) (row : a.row = i)
      (closing : Closing settings a event_ record q)
      (left : (s.apply settings op).requests e = .idle) (is : new = a.closedRow old record q)
  | abandoned (now : DateTime) (opened : old.openAttempt = true)
      (is : new = CostControls.abandoned now old)
  | resolved (outcome : ResolvedOutcome) (actual : Usd) (note : String) (now : DateTime)
      (event : op = .resolve i outcome actual note now) (awaits : old.awaitsOutcome = true)
      (is : new = old.resolve outcome actual note now)

/-- A row is added for a planned request that has none. -/
structure Inserted (s : Fleet) (op : FleetOp) (e : Nat) (site : CallSite) (hit : Bool)
    (call : ScanPlanCall) (p : Preparation) : Prop where
  event : ∃ lease token force response now, op = .request e (.prepare token force response now) ∧
    s.lease e = some lease ∧ p = preparation lease hit token force response now
  selected : s.requests e = .selected site hit (.insert call)
  free : ∀ row ∈ s.calls, standsFor row site.scan call.plannedRequestId = false

/-- A stale pass abandons open attempts and nothing else. -/
theorem reconcile_call {db : Database} {i : Nat} {old : ApiCall} (found : db.calls[i]? = some old)
    (staleBefore : DateTime) (scan : Option Nat) (now : DateTime) :
    ∃ new, (reconcileStaleApiCallAttempts db staleBefore scan now).calls[i]? = some new ∧
      (new = old ∨ old.openAttempt = true ∧ new = abandoned now old) := by
  rw [reconcileStaleApiCallAttempts_calls, found]
  refine ⟨_, rfl, ?_⟩
  by_cases stale : staleAttempt staleBefore scan old = true
  · exact Or.inr ⟨(Worker.staleAttempt_iff.mp stale).1, if_pos stale⟩
  · exact Or.inl (if_neg stale)

theorem reconcile_length (db : Database) (staleBefore : DateTime) (scan : Option Nat)
    (now : DateTime) :
    (reconcileStaleApiCallAttempts db staleBefore scan now).calls.length = db.calls.length := by
  unfold reconcileStaleApiCallAttempts
  generalize staleAttempts db staleBefore scan = ids
  induction ids generalizing db with
  | nil => rfl
  | cons i rest ih => rw [List.foldl_cons, ih, reconcileAttempt_calls, List.length_modify]

theorem recoverScans_length (settings : Settings) (now : DateTime) (jitter : Nat → ℚ)
    (ids : List Nat) (db : Database) :
    (ids.foldl (Worker.recoverScan settings now jitter) db).calls.length = db.calls.length := by
  induction ids generalizing db with
  | nil => rfl
  | cons j ids ih =>
    rw [List.foldl_cons, ih]
    unfold Worker.recoverScan
    split
    · rfl
    · exact reconcile_length _ _ _ _

theorem recoverScans_call (settings : Settings) (now : DateTime) (jitter : Nat → ℚ)
    {ids : List Nat} {db : Database} {i : Nat} {old : ApiCall} (found : db.calls[i]? = some old) :
    ∃ new, (ids.foldl (Worker.recoverScan settings now jitter) db).calls[i]? = some new ∧
      (new = old ∨ old.openAttempt = true ∧ new = abandoned now old) := by
  induction ids generalizing db with
  | nil => exact ⟨old, found, Or.inl rfl⟩
  | cons j ids ih =>
    rw [List.foldl_cons]
    have first : ∃ new, (Worker.recoverScan settings now jitter db j).calls[i]? = some new ∧
        (new = old ∨ old.openAttempt = true ∧ new = abandoned now old) := by
      unfold Worker.recoverScan
      split
      · exact ⟨old, found, Or.inl rfl⟩
      · exact reconcile_call found _ _ now
    obtain ⟨new, after, rfl | ⟨opened, rfl⟩⟩ := first
    · exact ih after
    · -- An abandoned row is closed, so no later scan of the loop selects it.
      have closed := Worker.abandoned_closed now old
      exact ⟨_, Worker.recoverScans_keeps settings now jitter after (Or.inl closed),
        Or.inr ⟨opened, rfl⟩⟩

section Rows
variable {settings : Settings} {s : Fleet}

/-- An event of a session at work is a move of its request. -/
theorem apply_request (settings : Settings) {e : Nat} {lease : ScanExecutionLease} (leased : s.lease e = some lease)
    (shaped : ∀ a, s.requests e = .taken a → a.Shaped) (op : RequestOp) :
    ∃ db state, RequestMove settings s.plan lease s.db op (s.requests e) db state ∧
      s.apply settings (.request e op) =
        { s.store db with requests := Function.update s.requests e state } := by
  refine ⟨_, _, run_move settings s.plan lease s.db shaped op, ?_⟩
  simp only [Fleet.apply, leased]

theorem commitCall_retry {calls left : List ApiCall} {site : CallSite} {p : Preparation} {i j : Nat}
    {row copy : ApiCall} (commits : commitCall calls site p (.retry i row) = some (left, j, copy)) :
    ∃ stored, calls[i]? = some stored ∧ j = i ∧ copy = row.retry p ∧
      left = calls.set i (ApiCall.flush row (row.retry p) stored) := by
  obtain ⟨stored, there, same⟩ := Option.map_eq_some_iff.mp commits
  cases same
  exact ⟨stored, there, rfl, rfl, rfl⟩

theorem commitCall_insert {calls left : List ApiCall} {site : CallSite} {p : Preparation} {j : Nat}
    {call : ScanPlanCall} {copy : ApiCall}
    (commits : commitCall calls site p (.insert call) = some (left, j, copy)) :
    (∀ row ∈ calls, standsFor row site.scan call.plannedRequestId = false) ∧ j = calls.length ∧
      copy = call.row site p ∧ left = calls ++ [call.row site p] := by
  simp only [commitCall] at commits
  split at commits
  · cases commits
  · rename_i free
    cases commits
    simp only [Bool.not_eq_true, List.any_eq_false] at free
    exact ⟨free, rfl, rfl, rfl⟩

theorem commitCall_existing {calls left : List ApiCall} {site : CallSite} {p : Preparation}
    {i j : Nat} {copy : ApiCall} (commits : commitCall calls site p (.existing i) = some (left, j, copy)) :
    left = calls := by
  obtain ⟨stored, -, same⟩ := Option.map_eq_some_iff.mp commits
  cases same
  rfl

/-- The rows after an event of a request: the one it works on has moved, or one
was added. -/
theorem request_calls {e : Nat} {lease : ScanExecutionLease} (leased : s.lease e = some lease)
    (shaped : ∀ a, s.requests e = .taken a → a.Shaped) {op : RequestOp} {db : Database}
    {state : RequestState} (move : RequestMove settings s.plan lease s.db op (s.requests e) db state)
    (left : (s.apply settings (.request e op)).requests e = state) :
    db.calls = s.calls ∨
    (∃ i old new, s.calls[i]? = some old ∧ db.calls = s.calls.set i new ∧
      CallMove settings s (.request e op) i old new) ∨
    ∃ site hit call p, Inserted s (.request e op) e site hit call p ∧
      db.calls = s.calls ++ [call.row site p] := by
  generalize at_ : s.requests e = before at move
  cases move with
  | waits | refused | selects | raises => exact Or.inl rfl
  | @prepares site hit selection token force response now calls i row commits =>
    cases selection with
    | existing j => exact Or.inl (commitCall_existing commits)
    | retry j copy =>
      obtain ⟨stored, there, -, -, set⟩ := commitCall_retry commits
      refine Or.inr (Or.inl ⟨j, stored, _, there, set, .reset rfl leased at_ ?_ rfl⟩)
      intro site' hit' selection
      rw [left]
      cases hit <;> exact nofun
    | insert call =>
      obtain ⟨free, -, -, added⟩ := commitCall_insert commits
      exact Or.inr (Or.inr ⟨site, hit, call, _,
        ⟨⟨lease, token, force, response, now, rfl, leased, rfl⟩, at_, free⟩, added⟩)
  | reserves held unreserved there target usage _ =>
    exact Or.inr (Or.inl ⟨_, _, _, there, rfl, .reserved rfl leased held at_ rfl unreserved rfl⟩)
  | submits held reserved unsent there =>
    exact Or.inr (Or.inl ⟨_, _, _, there, rfl, .submitted rfl leased held at_ rfl reserved unsent left rfl⟩)
  | @closes _ a record q closing =>
    cases there : s.calls[a.row]? with
    | none =>
      refine Or.inl ?_
      have missing : s.db.calls[a.row]? = none := there
      cases reservation : a.reservation with
      | none => simp only [closeCall, Database.putCall, missing]; rfl
      | some r =>
        obtain ⟨target, -, -⟩ := (shaped a at_).reserved r reservation
        simp only [closeCall, Database.putCall, missing, finishProviderCall, target, Database.getCall,
          Option.map_none]
        rfl
    | some stored =>
      exact Or.inr (Or.inl ⟨_, _, _, there, (shaped a at_).closeCall_calls there record q,
        .closed rfl leased at_ rfl closing left rfl⟩)

/-- The rows after a commit. -/
theorem apply_calls (settings : Settings) (shaped : ∀ e a, s.requests e = .taken a → a.Shaped) (op : FleetOp) :
    ((s.apply settings op).calls.length = s.calls.length ∧ ∀ (i : Nat) old, s.calls[i]? = some old →
      ∃ new, (s.apply settings op).calls[i]? = some new ∧ CallMove settings s op i old new) ∨
    ∃ e site hit call p, Inserted s op e site hit call p ∧
      (s.apply settings op).calls = s.calls ++ [call.row site p] := by
  have unchanged {t : List ApiCall} (same : t = s.calls) : t.length = s.calls.length ∧
      ∀ (i : Nat) old, s.calls[i]? = some old →
        ∃ new, t[i]? = some new ∧ CallMove settings s op i old new := by
    rw [same]
    exact ⟨rfl, fun i old found => ⟨old, found, .kept rfl⟩⟩
  have written {t : List ApiCall} {j : Nat} {stored after : ApiCall} (there : s.calls[j]? = some stored)
      (set : t = s.calls.set j after) (move : CallMove settings s op j stored after) :
      t.length = s.calls.length ∧ ∀ (i : Nat) old, s.calls[i]? = some old →
        ∃ new, t[i]? = some new ∧ CallMove settings s op i old new := by
    rw [set]
    refine ⟨List.length_set, fun i old found => ?_⟩
    by_cases same : j = i
    · subst same
      rw [there] at found
      cases found
      exact ⟨after, List.getElem?_set_self (List.getElem?_eq_some_iff.mp there).1, move⟩
    · rw [List.getElem?_set_ne same]
      exact ⟨old, found, .kept rfl⟩
  have passed {t : Database} {now : DateTime} (length : t.calls.length = s.calls.length)
      (rows : ∀ (i : Nat) old, s.calls[i]? = some old → ∃ new, t.calls[i]? = some new ∧
        (new = old ∨ old.openAttempt = true ∧ new = abandoned now old)) :
      t.calls.length = s.calls.length ∧ ∀ (i : Nat) old, s.calls[i]? = some old →
        ∃ new, t.calls[i]? = some new ∧ CallMove settings s op i old new := by
    refine ⟨length, fun i old found => ?_⟩
    obtain ⟨new, after, same | ⟨opened, is⟩⟩ := rows i old found
    · exact ⟨new, after, .kept same⟩
    · exact ⟨new, after, .abandoned now opened is⟩
  cases op with
  | work op =>
    refine Or.inl ?_
    cases op with
    | recover staleAfter now jitter =>
      exact passed (recoverScans_length settings now jitter _ s.db)
        fun i old found => recoverScans_call settings now jitter found
    | _ => exact unchanged rfl
  | reconcile staleBefore now =>
    exact Or.inl (passed (reconcile_length s.db staleBefore none now)
      fun i old found => reconcile_call found staleBefore none now)
  | resolve i outcome actual note now =>
    refine Or.inl ?_
    simp only [Fleet.apply]
    cases resolved : resolveUnknownProviderCall s.db i outcome actual note now with
    | error e => exact unchanged rfl
    | ok db =>
      obtain ⟨-, row, found, awaits, eq⟩ := resolveUnknownProviderCall_ok resolved
      refine written found ?_ (.resolved outcome actual note now rfl awaits rfl)
      rcases eq with ⟨-, rfl⟩ | ⟨day, -, rfl⟩
      · rw [Database.putCall_none found]
        rfl
      · rw [Database.putCall_none (by rw [postUsage_calls]; exact found)]
        rfl
  | request e op =>
    cases leased : s.lease e with
    | none =>
      refine Or.inl (unchanged ?_)
      simp only [Fleet.apply, leased]
    | some lease =>
      obtain ⟨db, state, move, eq⟩ := apply_request settings leased (shaped e) op
      rw [eq]
      obtain same | ⟨i, old, new, there, set, move⟩ | ⟨site, hit, call, p, inserted, left⟩ :=
        request_calls leased (shaped e) move (by rw [eq]; simp only [Function.update_self])
      · exact Or.inl (unchanged same)
      · exact Or.inl (written there set move)
      · exact Or.inr ⟨e, site, hit, call, p, inserted, left⟩

theorem apply_call (settings : Settings) (shaped : ∀ e a, s.requests e = .taken a → a.Shaped)
    (op : FleetOp) {i : Nat} {old : ApiCall} (found : s.calls[i]? = some old) :
    ∃ new, (s.apply settings op).calls[i]? = some new ∧ CallMove settings s op i old new := by
  obtain ⟨-, rows⟩ | ⟨e, site, hit, call, p, -, left⟩ := apply_calls settings shaped op
  · exact rows i old found
  · refine ⟨old, ?_, .kept rfl⟩
    rw [left, List.getElem?_append_left (List.getElem?_eq_some_iff.mp found).1]
    exact found

/-- The row before a commit, given the row after. -/
theorem apply_call_back (shaped : ∀ e a, s.requests e = .taken a → a.Shaped) (op : FleetOp) {i : Nat}
    {new : ApiCall} (after : (s.apply settings op).calls[i]? = some new) :
    (∃ old, s.calls[i]? = some old ∧ CallMove settings s op i old new) ∨
      ∃ e site hit call p, Inserted s op e site hit call p ∧ i = s.calls.length ∧
        new = call.row site p := by
  have bound := (List.getElem?_eq_some_iff.mp after).1
  by_cases before : i < s.calls.length
  · obtain ⟨row, there, move⟩ := apply_call settings shaped op (List.getElem?_eq_getElem before)
    rw [there] at after
    cases after
    exact Or.inl ⟨_, List.getElem?_eq_getElem before, move⟩
  · obtain ⟨length, -⟩ | ⟨e, site, hit, call, p, inserted, left⟩ :=
      apply_calls settings shaped op
    · rw [length] at bound
      exact absurd bound before
    · rw [left, List.length_append, List.length_singleton] at bound
      have last : i = s.calls.length := by omega
      subst last
      rw [left, List.getElem?_concat_length] at after
      exact Or.inr ⟨e, site, hit, call, p, inserted, rfl, (Option.some.inj after).symm⟩

/-- A request stays as it is, or an event of its own moves it. -/
theorem apply_requests (settings : Settings) (shaped : ∀ e a, s.requests e = .taken a → a.Shaped)
    (op : FleetOp) (e : Nat) :
    (s.apply settings op).requests e = s.requests e ∨
      ∃ lease event db, op = .request e event ∧ s.lease e = some lease ∧
        RequestMove settings s.plan lease s.db event (s.requests e) db
          ((s.apply settings op).requests e) ∧
        (s.apply settings op).calls = db.calls := by
  cases op with
  | work op => exact Or.inl rfl
  | reconcile staleBefore now => exact Or.inl rfl
  | resolve i outcome actual note now =>
    refine Or.inl ?_
    simp only [Fleet.apply]
    split <;> rfl
  | request j event =>
    cases leased : s.lease j with
    | none =>
      refine Or.inl ?_
      simp only [Fleet.apply, leased]
    | some lease =>
      obtain ⟨db, state, move, eq⟩ := apply_request settings leased (shaped j) event
      rw [eq]
      by_cases same : e = j
      · subst same
        refine Or.inr ⟨lease, event, db, rfl, leased, ?_, rfl⟩
        simp only [Function.update_self]
        exact move
      · exact Or.inl (Function.update_of_ne same state s.requests)

end Rows

/-! ## Copies -/

/-- The request goes on with the row it has, which may be marked submitted. -/
structure Continues (calls left : List ApiCall) (b a : Attempt) : Prop where
  site : a.site = b.site
  row : a.row = b.row
  run : a.seen.scanRunId = b.seen.scanRunId
  planned : a.seen.plannedRequestId = b.seen.plannedRequestId
  token : a.seen.attemptToken = b.seen.attemptToken
  network : a.seen.networkStartedAt = b.seen.networkStartedAt ∨
    b.seen.networkStartedAt = none ∧ b.reservation.isSome ∧ ∃ now stored,
      a.seen.networkStartedAt = some now ∧ calls[b.row]? = some stored ∧
      left = calls.set b.row (ApiCall.flush b.seen (b.seen.submit now) stored)
  shaped : b.Shaped → a.Shaped

/-- A session has its row: the request was prepared before, or is now. -/
theorem taken_back {settings : Settings} {s : Fleet}
    (shaped : ∀ e a, s.requests e = .taken a → a.Shaped) {op : FleetOp} {e : Nat} {a : Attempt}
    (after : (s.apply settings op).requests e = .taken a) :
    (∃ b, s.requests e = .taken b ∧ Continues s.calls (s.apply settings op).calls b a) ∨
      ∃ lease site selection token force response now i row,
        op = .request e (.prepare token force response now) ∧ s.lease e = some lease ∧
        s.requests e = .selected site false selection ∧
        commitCall s.calls site (preparation lease false token force response now) selection =
          some ((s.apply settings op).calls, i, row) ∧
        a = ⟨site, i, row, none, false⟩ := by
  obtain same | ⟨lease, event, db, rfl, leased, move, calls⟩ :=
    apply_requests settings shaped op e
  · rw [same] at after
    exact Or.inl ⟨a, after, rfl, rfl, rfl, rfl, rfl, Or.inl rfl, id⟩
  · rw [after] at move
    rw [calls]
    generalize at_ : s.requests e = before at move
    generalize is : RequestState.taken a = state at move
    cases move with
    | waits =>
      subst is
      exact Or.inl ⟨a, rfl, rfl, rfl, rfl, rfl, rfl, Or.inl rfl, id⟩
    | refused => cases is
    | selects => cases is
    | @prepares site hit selection token force response now left i row commits =>
      cases hit with
      | true => cases is
      | false =>
        cases is
        exact Or.inr ⟨lease, site, selection, token, force, response, now, i, row, rfl, leased,
          rfl, commits, rfl⟩
    | @raises _ b =>
      cases is
      exact Or.inl ⟨b, rfl, rfl, rfl, rfl, rfl, rfl, Or.inl rfl,
        fun shaped => ⟨shaped.unreserved, shaped.reserved⟩⟩
    | @reserves _ _ _ _ b _ r _ unreserved _ target =>
      cases is
      refine Or.inl ⟨b, rfl, rfl, rfl, rfl, rfl, rfl, Or.inl rfl, fun shaped => ⟨nofun, ?_⟩⟩
      rintro _ ⟨⟩
      obtain ⟨-, -, status, unsent⟩ := shaped.unreserved unreserved
      exact ⟨target, rfl, Or.inl ⟨unsent, rfl, status⟩⟩
    | @submits now b stored r _ reserved unsent there =>
      cases is
      refine Or.inl ⟨b, rfl, rfl, rfl, rfl, rfl, rfl,
        Or.inr ⟨unsent, by rw [reserved]; rfl, now, stored, rfl, there, rfl⟩, fun shaped => ⟨?_, ?_⟩⟩
      · intro none
        rw [reserved] at none
        cases none
      · intro r' held
        obtain ⟨target, state, -⟩ := shaped.reserved r' held
        exact ⟨target, state, Or.inr ⟨rfl, rfl, rfl⟩⟩
    | closes => cases is

end RankRent.Provider
