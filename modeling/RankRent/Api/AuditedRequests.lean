import RankRent.Api.Requests
import RankRent.Library.Programs
import RankRent.Security.Audit

/-!
# Queued scans and their audit events

The requests that queue a scan, statement by statement: `api_scan` with
`async_run`, `api_retry_scan` and `api_opportunity_promote`. `_queue_scan`
commits; the audit event is appended after it and committed on its own. Any
statement may fail, and what is not committed then is lost.
-/

namespace RankRent.Api
open Audit (AuditCall AuditEvent)

/-- The scan store and the audit table. -/
structure Records where
  api : State
  audits : List AuditEvent

/-- The committed rows, and the rows as the session of a request will commit
them. -/
structure Work where
  committed : Records
  session : Records
  /-- Every appended event can be stored: its metadata is JSON, without a `Decimal`. -/
  storable : Bool

inductive RequestError
  | refused | failed
  deriving DecidableEq, Repr

inductive Statement
  /-- A statement whose rows are not modelled. -/
  | call (name : String)
  | getOrCreateOpportunity (o : Nat)
  | transition (o : Nat) (target : OpportunityState) (role : Review.ReviewRole)
  | transitionSystem (o : Nat) (target : OpportunityState) (reason : String)
  | addScan (job : Job) (source : ScanSource) (retryCount maxAttempts : Nat)
  | appendAuditEvent (call : AuditCall) (storable : Bool)
  | commit

def Statement.run (work : Work) : Statement → Work × Option RequestError
  | .call _ => (work, none)
  | .getOrCreateOpportunity o =>
    ({ work with session.api := (work.session.api.resolve o).2 }, none)
  | .transition o target role =>
    match work.session.api.transition o target role true true with
    | none => (work, some .refused)
    | some api => ({ work with session.api := api }, none)
  | .transitionSystem o target reason =>
    match work.session.api.review o with
    | none => (work, some .refused)
    | some state =>
      match RankRent.transitionSystem state target reason with
      | .error _ => (work, some .refused)
      | .ok next => ({ work with session.api := work.session.api.setReview o next }, none)
  | .addScan job source retryCount maxAttempts =>
    ({ work with session.api := work.session.api.addScan job source retryCount maxAttempts }, none)
  | .appendAuditEvent event storable =>
    -- the head is the newest committed row: nothing is flushed since the commit
    ({ work with
       session.audits := work.session.audits ++ [event.row work.committed.audits.getLast?]
       storable := work.storable && storable }, none)
  | .commit => if work.storable then ({ work with committed := work.session }, none)
    else (work, some .failed)

/-- What a request sends along, and the time of its events. -/
structure Caller where
  actor : Audit.Principal
  requestId : Option String
  now : DateTime

/-- An event a request appends, and whether its metadata can be stored. -/
structure AuditAppend where
  call : AuditCall
  storable : Bool

def DataMode.value : DataMode → String
  | .fixture => "fixture"
  | .live => "live"
  | .replay => "replay"

/-- `_audit_request`, whose metadata is made JSON first. -/
def Caller.event (caller : Caller) (eventType : String) (scan : Nat)
    (metadata : List (String × PyJson)) (storable : Bool) : AuditAppend where
  call :=
    { eventType := eventType
      actor := caller.actor
      targetType := "scan_run"
      targetId := some (toString scan)
      requestId := caller.requestId
      metadata := some (.obj metadata)
      now := caller.now }
  storable := storable

inductive QueueRequest
  /-- `api_scan` with `async_run`; `costText` is `str` of the plan's cost. -/
  | scan (o : Nat) (mode : DataMode) (profile : String) (plan : PlanSummary)
      (confirmLiveCost : Bool) (costText : String)
  | retry (i : Nat) (plan : PlanSummary)
  /-- `cost` is the plan's cost as JSON. -/
  | promote (o target : Nat) (plan : PlanSummary) (confirmLiveCost evidenceFailed : Bool)
      (role : Review.ReviewRole) (cost : PyJson)

/-- The endpoint as one transaction; `none` when it refuses. -/
def QueueRequest.accept (settings : Settings) (s : State) : QueueRequest → Option State
  | .scan o mode profile plan confirm _ => s.apiScan settings o mode profile plan confirm
  | .retry i plan => s.apiRetryScan settings i plan
  | .promote o target plan confirm evidenceFailed role _ =>
    s.apiPromote settings o target plan confirm evidenceFailed role

/-- `_queue_scan` up to its commit. -/
def queueScanStatements (settings : Settings) (s : State) (o : Nat) (mode : DataMode)
    (profile : ScanProfile) (sourceScan : Option Nat) (retryCount : Nat) (source : ScanSource) :
    List Statement :=
  let opportunity := (s.resolve o).1
  [.call "upsert_service", .call "upsert_market", .getOrCreateOpportunity o] ++
    (if profile = .testing then
      [.transitionSystem opportunity .testingPlanned "Testing scan was explicitly queued."]
    else []) ++
    [.addScan ⟨opportunity, mode, profile, sourceScan⟩ source retryCount
        settings.scanWorkerMaxAttempts,
      .call "session.flush", .call "build_scan_plan", .call "save_scan_plan_calls"]

/-- The statements of a request before its first commit; `none` when a check
before them refuses it. -/
def QueueRequest.statements (settings : Settings) (s : State) : QueueRequest → Option (List Statement)
  | .scan o mode profile plan confirm _ =>
    let (o', resolved) := s.resolve o
    if mode = .live ∧ profile = "full" ∧ resolved.review o' ≠ some .fullScanApproved then none
    else
      match scanProfile profile with
      | none => none
      | some scanProfile =>
        if plan.blocked then none
        else if mode = .live ∧ 0 < plan.uncachedCost ∧ !confirm then none
        else some (queueScanStatements settings s o mode scanProfile none 0 .manualAsync)
  | .retry i plan =>
    match s.worker.scans[i]?, s.jobs[i]? with
    | some row, some job =>
      if active row then none
      else if s.activeRetry i then none
      else if plan.blocked then none
      else some (queueScanStatements settings s job.opportunity job.dataMode job.scanProfile (some i)
        (row.retryCount + 1) .manualAsync)
    | _, _ => none
  | .promote o target plan confirm evidenceFailed role _ =>
    if o < s.worker.reviews.length then
      if s.busy o then none
      else
        match s.completedTesting o with
        | none => none
        | some (source, job) =>
          if evidenceFailed then none
          else if job.dataMode ≠ .live then none
          else if plan.blocked then none
          else if 0 < plan.uncachedCost ∧ !confirm then none
          else some (.transition o .fullScanApproved role ::
            queueScanStatements settings s target .live .full (some source) 0 .promotionAsync)
    else none

/-- The events of a request, appended after `_queue_scan` returned its scan. -/
def QueueRequest.events (s : State) (caller : Caller) : QueueRequest → List AuditAppend
  | .scan _ mode profile _ confirm costText =>
    caller.event "scan.create" s.worker.scans.length
        [("scan_profile", .str profile), ("data_mode", .str mode.value), ("async", .bool true)] true ::
      if confirm then
        -- `append_audit_event` itself, with the plan's `Decimal` in the metadata
        [caller.event "scan.cost_confirmed" s.worker.scans.length
          [("estimated_cost_usd", .str costText), ("scan_profile", .str profile)] false]
      else []
  | .retry i _ => [caller.event "scan.retry" s.worker.scans.length
      [("source_scan_run_id", .num i)] true]
  | .promote o _ _ confirm _ _ cost => [caller.event "scan.promote" s.worker.scans.length
      [("source_scan_run_id", .num (((s.completedTesting o).map Prod.fst).getD 0)),
        ("cost_confirmed", .bool confirm), ("estimated_cost_usd", cost)] true]

/-- The audit part of a request and its commit. -/
def auditStatements (events : List AuditAppend) : List Statement :=
  events.map (fun event => .appendAuditEvent event.call event.storable) ++ [.commit]

/-- Run the statements; the one at `failure` fails. -/
def runStatements (failure : Option Nat) : Nat → Work → List Statement → Work × Option RequestError :=
  Programs.run (Programs.failing RequestError.failed failure Statement.run)

/-- The committed rows after a request that fails at the given statement. -/
def QueueRequest.handle (settings : Settings) (s : Records) (caller : Caller) (failure : Option Nat)
    (request : QueueRequest) : Records :=
  match request.statements settings s.api with
  | none => s
  | some statements =>
    (runStatements failure 0 ⟨s, s, true⟩
      ((statements ++ [.commit]) ++ auditStatements (request.events s.api caller))).1.committed

/-- The rows of the events, all after the newest committed one. -/
def auditRows (s : Records) (events : List AuditAppend) : List AuditEvent :=
  events.map fun event => event.call.row s.audits.getLast?

/-- Either nothing is committed, or the queued scan with its review and its
events. -/
def QueueRequest.Atomic (settings : Settings) (s : Records) (caller : Caller) (failure : Option Nat)
    (request : QueueRequest) : Prop :=
  request.handle settings s caller failure = s ∨
    ∃ api, request.accept settings s.api = some api ∧
      request.handle settings s caller failure =
        ⟨api, s.audits ++ auditRows s (request.events s.api caller)⟩

/-! ## What the statements do -/

section Statements
variable {settings : Settings}

theorem run_queueScan (settings : Settings) (work : Work) {s : State} {o : Nat}
    (same : (work.session.api.resolve o).1 = (s.resolve o).1) (mode : DataMode)
    (profile : ScanProfile) (sourceScan : Option Nat) (retryCount : Nat) (source : ScanSource) (n : Nat) :
    match work.session.api.queueScan settings o mode profile sourceScan retryCount source with
    | some api => runStatements none n work
        (queueScanStatements settings s o mode profile sourceScan retryCount source) =
          ({ work with session.api := api }, none)
    | none => (runStatements none n work
        (queueScanStatements settings s o mode profile sourceScan retryCount source)).2 ≠ none := by
  cases profile with
  | full =>
    simp [State.queueScan, queueScanStatements, runStatements, Programs.run, Programs.failing,
      Statement.run, same]
  | testing =>
    cases there : (work.session.api.resolve o).2.review (s.resolve o).1 with
    | none =>
      simp [State.queueScan, queueScanStatements, runStatements, Programs.run, Programs.failing,
        Statement.run, same, there]
    | some state =>
      cases moved : transitionSystem state .testingPlanned "Testing scan was explicitly queued." with
      | error e =>
        simp [State.queueScan, queueScanStatements, runStatements, Programs.run, Programs.failing,
          Statement.run, same, there, moved]
      | ok next =>
        simp [State.queueScan, queueScanStatements, runStatements, Programs.run, Programs.failing,
          Statement.run, same, there, moved]

/-- The statements do what the endpoint does as one transaction, and raise
where it refuses. -/
def Does (s : Records) : Option (List Statement) → Option State → Prop
  | none, accepted => accepted = none
  | some statements, some api =>
    runStatements none 0 ⟨s, s, true⟩ statements = (⟨s, { s with api := api }, true⟩, none)
  | some statements, none => (runStatements none 0 ⟨s, s, true⟩ statements).2 ≠ none

theorem does_unless {s : Records} {statements : Option (List Statement)} {accepted : Option State}
    (refused : Prop) [Decidable refused] (does : Does s statements accepted) :
    Does s (if refused then none else statements) (if refused then none else accepted) := by
  split
  · exact rfl
  · exact does

theorem does_queueScan (settings : Settings) (s : Records) (o : Nat) (mode : DataMode)
    (profile : ScanProfile) (sourceScan : Option Nat) (retryCount : Nat) (source : ScanSource) :
    Does s (some (queueScanStatements settings s.api o mode profile sourceScan retryCount source))
      (s.api.queueScan settings o mode profile sourceScan retryCount source) := by
  have ran := run_queueScan settings ⟨s, s, true⟩ (s := s.api) (o := o) rfl mode profile sourceScan retryCount source 0
  cases accepted : s.api.queueScan settings o mode profile sourceScan retryCount source with
  | none =>
    simp only [accepted] at ran
    exact ran
  | some api =>
    simp only [accepted] at ran
    exact ran

/-- The approval of a promotion, then its scan. -/
theorem does_promote (settings : Settings) (s : Records) (o target source : Nat)
    (role : Review.ReviewRole) :
    Does s
      (some (.transition o .fullScanApproved role ::
        queueScanStatements settings s.api target .live .full (some source) 0 .promotionAsync))
      (match s.api.transition o .fullScanApproved role true true with
        | none => none
        | some api => api.queueScan settings target .live .full (some source) 0 .promotionAsync) := by
  cases moved : s.api.transition o .fullScanApproved role true true with
  | none => simp [Does, runStatements, Programs.run, Programs.failing, Statement.run, moved]
  | some api =>
    have index : (api.resolve target).1 = (s.api.resolve target).1 := by
      unfold State.transition at moved
      split at moved
      · cases moved
      · obtain ⟨next, -, rfl⟩ := Option.map_eq_some_iff.mp moved
        exact resolve_setReview ..
    have ran := run_queueScan settings ⟨s, { s with api := api }, true⟩ index
      .live .full (some source) 0 .promotionAsync 1
    have first : runStatements none 0 ⟨s, s, true⟩ (.transition o .fullScanApproved role ::
        queueScanStatements settings s.api target .live .full (some source) 0 .promotionAsync) =
        runStatements none 1 ⟨s, { s with api := api }, true⟩
          (queueScanStatements settings s.api target .live .full (some source) 0 .promotionAsync) :=
      Programs.run_of_step (by simp [Programs.failing, Statement.run, moved]) _
    cases accepted : api.queueScan settings target .live .full (some source) 0 .promotionAsync with
    | none =>
      simp only [accepted] at ran ⊢
      rw [← first] at ran
      exact ran
    | some final =>
      simp only [accepted] at ran ⊢
      rw [← first] at ran
      exact ran

theorem QueueRequest.does (settings : Settings) (s : Records) (request : QueueRequest) :
    Does s (request.statements settings s.api) (request.accept settings s.api) := by
  cases request with
  | scan o mode profile plan confirm costText =>
    refine does_unless _ ?_
    cases scanProfile profile with
    | none => exact rfl
    | some scanned => exact does_unless _ (does_unless _ (does_queueScan ..))
  | retry i plan =>
    simp only [statements, accept, State.apiRetryScan]
    cases s.api.worker.scans[i]? with
    | none => exact rfl
    | some row =>
      cases s.api.jobs[i]? with
      | none => exact rfl
      | some job =>
        exact does_unless _ (does_unless _ (does_unless _ (does_queueScan ..)))
  | promote o target plan confirm evidenceFailed role cost =>
    simp only [statements, accept, State.apiPromote]
    by_cases known : o < s.api.worker.reviews.length
    · rw [if_pos known, if_pos known]
      refine does_unless _ ?_
      cases s.api.completedTesting o with
      | none => exact rfl
      | some source =>
        exact does_unless _ (does_unless _ (does_unless _ (does_unless _ (does_promote ..))))
    · rw [if_neg known, if_neg known]
      exact rfl

theorem queueScanStatements_quiet {s : State} {o : Nat} {mode : DataMode} {profile : ScanProfile}
    {sourceScan : Option Nat} {retryCount : Nat} {source : ScanSource} :
    .commit ∉ queueScanStatements settings s o mode profile sourceScan retryCount source := by
  cases profile <;> simp [queueScanStatements]

theorem QueueRequest.statements_quiet {s : State} {request : QueueRequest}
    {statements : List Statement} (found : request.statements settings s = some statements) :
    .commit ∉ statements := by
  cases request with
  | scan o mode profile plan confirm costText =>
    simp only [QueueRequest.statements, Option.ite_none_left_eq_some] at found
    obtain ⟨-, found⟩ := found
    cases scanned : scanProfile profile with
    | none => simp [scanned] at found
    | some profile =>
      simp only [scanned, Option.ite_none_left_eq_some, Option.some.injEq] at found
      exact found.2.2 ▸ queueScanStatements_quiet
  | retry i plan =>
    simp only [QueueRequest.statements] at found
    split at found
    · simp only [Option.ite_none_left_eq_some, Option.some.injEq] at found
      exact found.2.2.2 ▸ queueScanStatements_quiet
    · cases found
  | promote o target plan confirm evidenceFailed role cost =>
    simp only [QueueRequest.statements, Option.ite_none_right_eq_some, Option.ite_none_left_eq_some]
      at found
    obtain ⟨-, -, found⟩ := found
    split at found
    · cases found
    · simp only [Option.ite_none_left_eq_some, Option.some.injEq] at found
      rw [← found.2.2.2.2, List.mem_cons, not_or]
      exact ⟨by simp, queueScanStatements_quiet⟩

/-- No statement but a commit commits. -/
theorem run_committed {work : Work} {statement : Statement} (quiet : statement ≠ .commit) :
    (statement.run work).1.committed = work.committed := by
  cases statement with
  | commit => exact absurd rfl quiet
  | transition o target role =>
    simp only [Statement.run]
    split <;> rfl
  | transitionSystem o target reason =>
    simp only [Statement.run]
    split
    · rfl
    · split <;> rfl
  | _ => rfl

/-! ## The two commits -/

variable {s : Records} {statements : List Statement} {failure : Option Nat}

theorem run_kept (failure : Option Nat) (quiet : .commit ∉ statements) (n : Nat) (work : Work) :
    (runStatements failure n work statements).1.committed = work.committed :=
  Programs.run_failing_kept Work.committed
    fun _ member _ => run_committed fun same => quiet (same ▸ member)

/-- A request that raises before its first commit commits nothing. -/
theorem run_first_raises (quiet : .commit ∉ statements)
    (raises : (runStatements failure 0 ⟨s, s, true⟩ statements).2 ≠ none ∨
      failure = some statements.length) (rest : List Statement) :
    (runStatements failure 0 ⟨s, s, true⟩ ((statements ++ [.commit]) ++ rest)).1.committed = s := by
  have kept := run_kept failure quiet 0 ⟨s, s, true⟩
  rw [List.append_assoc, runStatements, Programs.run_append]
  revert raises kept
  rw [runStatements]
  cases Programs.run (Programs.failing RequestError.failed failure Statement.run) 0 ⟨s, s, true⟩
      statements with
  | mk work raised =>
    intro raises kept
    cases raised with
    | some e => exact kept
    | none =>
      -- the commit is the statement that fails
      have fails := raises.resolve_left (by simp)
      simp only [List.singleton_append, Nat.zero_add, Programs.run, Programs.failing, fails,
        ↓reduceIte]
      exact kept

/-- A request that is accepted and does not fail by then makes its first commit. -/
theorem run_first_commit {api : State} (does : Does s (some statements) (some api))
    (apart : ∀ k, failure = some k → statements.length < k) (rest : List Statement) :
    runStatements failure 0 ⟨s, s, true⟩ ((statements ++ [.commit]) ++ rest) =
      runStatements failure (statements.length + 1)
        ⟨{ s with api := api }, { s with api := api }, true⟩ rest := by
  have ran : runStatements failure 0 ⟨s, s, true⟩ statements =
      (⟨s, { s with api := api }, true⟩, none) := by
    rw [← does]
    refine Programs.run_failing_apart 0 fun k fails => Or.inr ?_
    have := apart k fails
    omega
  have here : failure ≠ some statements.length := fun fails => absurd (apart _ fails) (by omega)
  rw [List.append_assoc, runStatements, Programs.run_append]
  rw [runStatements] at ran
  simp only [ran, List.singleton_append, Nat.zero_add]
  refine Programs.run_of_step ?_ rest
  rw [Programs.failing, if_neg here]
  rfl

/-- The events of a request wait for the last commit. -/
theorem run_appends (c : Records) (api : State) (events : List AuditAppend) (audits : List AuditEvent)
    (storable : Bool) (n : Nat) :
    runStatements none n ⟨c, ⟨api, audits⟩, storable⟩
        (events.map fun event => .appendAuditEvent event.call event.storable) =
      (⟨c, ⟨api, audits ++ auditRows c events⟩, storable && events.all AuditAppend.storable⟩,
        none) := by
  induction events generalizing audits storable n with
  | nil => simp [runStatements, Programs.run, auditRows]
  | cons event events ih =>
    rw [List.map_cons, runStatements, Programs.run_of_step (t := ⟨c, ⟨api, audits ++
      [event.call.row c.audits.getLast?]⟩, storable && event.storable⟩) (by
        simp [Programs.failing, Statement.run])]
    refine (ih ..).trans ?_
    simp [auditRows, Bool.and_assoc]

theorem run_audits (c : Records) (events : List AuditAppend) (n : Nat) :
    (runStatements none n ⟨c, c, true⟩ (auditStatements events)).1.committed =
      if events.all AuditAppend.storable then { c with audits := c.audits ++ auditRows c events }
      else c := by
  have appended := run_appends c c.api events c.audits true n
  rw [runStatements] at appended
  rw [auditStatements, runStatements, Programs.run_append]
  simp only [appended, Bool.true_and]
  cases events.all AuditAppend.storable <;>
    simp [Programs.run, Programs.failing, Statement.run]

theorem run_audits_fails {c : Records} {events : List AuditAppend} {n k : Nat}
    (fails : failure = some k) (inside : n ≤ k ∧ k < n + (auditStatements events).length) :
    (runStatements failure n ⟨c, c, true⟩ (auditStatements events)).1.committed = c := by
  have quiet : Statement.commit ∉ events.map fun event =>
      Statement.appendAuditEvent event.call event.storable := by simp
  have kept := run_kept failure quiet n ⟨c, c, true⟩
  rw [auditStatements, List.length_append, List.length_map, List.length_singleton] at inside
  rw [auditStatements, runStatements, Programs.run_append]
  have raises (before : k < n + (events.map fun event =>
      Statement.appendAuditEvent event.call event.storable).length) :
      (runStatements failure n ⟨c, c, true⟩ (events.map fun event =>
        Statement.appendAuditEvent event.call event.storable)).2 ≠ none :=
    Programs.run_failing_inside fails ⟨inside.1, before⟩
  rw [List.length_map] at raises
  revert raises kept
  rw [runStatements]
  cases Programs.run (Programs.failing RequestError.failed failure Statement.run) n ⟨c, c, true⟩
      (events.map fun event => Statement.appendAuditEvent event.call event.storable) with
  | mk work raised =>
    intro kept raises
    cases raised with
    | some e => exact kept
    | none =>
      have last : k = n + events.length := by
        by_contra differs
        exact raises (by omega) rfl
      have here : failure = some (n + (events.map fun event =>
          Statement.appendAuditEvent event.call event.storable).length) := by
        rw [List.length_map, ← last, fails]
      simp only [Programs.run, Programs.failing, here, ↓reduceIte]
      exact kept

/-- An accepted request queues a scan. -/
theorem QueueRequest.accept_adds {s api : State} {request : QueueRequest}
    (accepted : request.accept settings s = some api) :
    api.worker.scans.length = s.worker.scans.length + 1 := by
  have adds {t : State} {o : Nat} {mode : DataMode} {profile : ScanProfile} {sourceScan : Option Nat}
      {retryCount : Nat} {source : ScanSource}
      (queued : t.queueScan settings o mode profile sourceScan retryCount source = some api) :
      api.worker.scans.length = t.worker.scans.length + 1 := by
    rw [(queueScan_some queued).1.scans]
    simp
  cases request with
  | scan o mode profile plan confirm costText =>
    obtain ⟨scanned, -, queued, -⟩ := apiScan_some accepted
    exact adds queued
  | retry i plan =>
    obtain ⟨scan, job, -, -, queued⟩ := apiRetryScan_some accepted
    exact adds queued
  | promote o target plan confirm evidenceFailed role cost =>
    obtain ⟨source, state, -, -, -, queued⟩ := apiPromote_some accepted
    exact adds (t := s.setReview o .fullScanApproved) queued

theorem QueueRequest.events_some (s : State) (caller : Caller) (request : QueueRequest) :
    request.events s caller ≠ [] := by
  cases request <;> simp [QueueRequest.events]

/-- The number of the statement after the last one. -/
def QueueRequest.finish (s : State) (caller : Caller) (request : QueueRequest)
    (statements : List Statement) : Nat :=
  statements.length + 1 + (auditStatements (request.events s caller)).length

/-- An accepted request fails before it has made its first commit, or it runs to
its end and all its events can be stored. -/
def QueueRequest.Undisturbed (settings : Settings) (s : Records) (caller : Caller)
    (failure : Option Nat) (request : QueueRequest) : Prop :=
  ∀ statements api, request.statements settings s.api = some statements →
    request.accept settings s.api = some api →
    (∃ k, failure = some k ∧ k ≤ statements.length) ∨
      (∀ k, failure = some k → request.finish s.api caller statements ≤ k) ∧
        (request.events s.api caller).all AuditAppend.storable

section Outcomes
variable {caller : Caller} {request : QueueRequest}

theorem QueueRequest.handle_refused (refused : request.accept settings s.api = none) :
    request.handle settings s caller failure = s := by
  have does := request.does settings s
  rw [refused] at does
  cases found : request.statements settings s.api with
  | none => rw [handle, found]
  | some statements =>
    rw [found] at does
    rw [handle, found]
    refine run_first_raises (statements_quiet found) ?_ _
    by_cases early : ∃ k, failure = some k ∧ k ≤ statements.length
    · obtain ⟨k, fails, bound⟩ := early
      by_cases last : k = statements.length
      · exact Or.inr (last ▸ fails)
      · exact Or.inl (Programs.run_failing_inside fails ⟨by omega, by omega⟩)
    · refine Or.inl ?_
      rw [runStatements, Programs.run_failing_apart 0 fun k fails => ?_]
      · exact does
      · by_contra inside
        exact early ⟨k, fails, by omega⟩

theorem QueueRequest.handle_early (found : request.statements settings s.api = some statements)
    {k : Nat} (fails : failure = some k) (bound : k ≤ statements.length) :
    request.handle settings s caller failure = s := by
  rw [handle, found]
  refine run_first_raises (statements_quiet found) ?_ _
  by_cases last : k = statements.length
  · exact Or.inr (last ▸ fails)
  · exact Or.inl (Programs.run_failing_inside fails ⟨by omega, by omega⟩)

/-- A failure after the first commit leaves the scan without its events. -/
theorem QueueRequest.handle_late {api : State}
    (found : request.statements settings s.api = some statements)
    (accepted : request.accept settings s.api = some api) {k : Nat} (fails : failure = some k)
    (after : statements.length < k) (before : k < request.finish s.api caller statements) :
    request.handle settings s caller failure = { s with api := api } := by
  have does := request.does settings s
  rw [found, accepted] at does
  rw [handle, found]
  simp only
  rw [run_first_commit does (fun j same => by
    rw [fails] at same
    cases same
    exact after)]
  exact run_audits_fails fails ⟨by omega, by unfold finish at before; omega⟩

theorem QueueRequest.handle_whole (caller : Caller) {api : State}
    (found : request.statements settings s.api = some statements)
    (accepted : request.accept settings s.api = some api)
    (apart : ∀ k, failure = some k → request.finish s.api caller statements ≤ k) :
    request.handle settings s caller failure =
      if (request.events s.api caller).all AuditAppend.storable then
        ⟨api, s.audits ++ auditRows s (request.events s.api caller)⟩
      else { s with api := api } := by
  have does := request.does settings s
  rw [found, accepted] at does
  rw [handle, found]
  simp only
  rw [run_first_commit does (fun k fails => by
    have := apart k fails
    unfold finish at this
    omega)]
  rw [runStatements, Programs.run_failing_apart 0 fun k fails => Or.inr (apart k fails)]
  exact run_audits ..

end Outcomes

end Statements

/-- A request leaves its scan, its review and its events together or not at all
exactly where nothing fails between the commit of `_queue_scan` and its own,
the storing of its events included. -/
theorem audited_request_atomic (settings : Settings) (s : Records) (caller : Caller)
    (failure : Option Nat) (request : QueueRequest) :
    request.Atomic settings s caller failure ↔ request.Undisturbed settings s caller failure := by
  cases accepted : request.accept settings s.api with
  | none =>
    refine iff_of_true (Or.inl (QueueRequest.handle_refused accepted)) ?_
    intro statements api _ taken
    rw [accepted] at taken
    cases taken
  | some api =>
    have does := request.does settings s
    cases found : request.statements settings s.api with
    | none =>
      rw [found, accepted] at does
      cases does
    | some statements =>
      have queued := QueueRequest.accept_adds accepted
      have halfway : request.handle settings s caller failure = { s with api := api } →
          ¬ request.Atomic settings s caller failure := by
        rintro half (same | ⟨api', accepted', both⟩)
        · rw [half] at same
          rw [← congrArg (fun records => records.api.worker.scans.length) same] at queued
          simp only at queued
          omega
        · rw [half] at both
          have audits := congrArg Records.audits both
          have none := List.self_eq_append_right.mp audits
          exact QueueRequest.events_some s.api caller request (List.map_eq_nil_iff.mp none)
      by_cases early : ∃ k, failure = some k ∧ k ≤ statements.length
      · obtain ⟨k, fails, bound⟩ := early
        refine iff_of_true (Or.inl (QueueRequest.handle_early found fails bound)) ?_
        intro statements' api' found' _
        rw [found] at found'
        cases found'
        exact Or.inl ⟨k, fails, bound⟩
      · by_cases late : ∃ k, failure = some k ∧ k < request.finish s.api caller statements
        · obtain ⟨k, fails, bound⟩ := late
          have after : statements.length < k := by
            by_contra before
            exact early ⟨k, fails, by omega⟩
          refine iff_of_false (halfway (QueueRequest.handle_late found accepted fails after bound)) ?_
          intro undisturbed
          obtain early' | ⟨apart, -⟩ := undisturbed statements api found accepted
          · exact early early'
          · have := apart k fails
            omega
        · have apart : ∀ k, failure = some k → request.finish s.api caller statements ≤ k := by
            intro k fails
            by_contra before
            exact late ⟨k, fails, by omega⟩
          have whole := QueueRequest.handle_whole caller found accepted apart
          by_cases storable : (request.events s.api caller).all AuditAppend.storable = true
          · rw [if_pos storable] at whole
            refine iff_of_true (Or.inr ⟨api, accepted, whole⟩) ?_
            intro statements' api' found' _
            rw [found] at found'
            cases found'
            exact Or.inr ⟨apart, storable⟩
          · rw [if_neg storable] at whole
            refine iff_of_false (halfway whole) fun undisturbed => ?_
            obtain early' | ⟨-, storable'⟩ := undisturbed statements api found accepted
            · exact early early'
            · exact storable storable'

/-! ## An audit insert that fails -/

namespace LostEvent

def caller : Caller := ⟨⟨"operator-1", .operator⟩, some "request-1", 100⟩

/-- One discovered opportunity and no scan. -/
def start : Records := ⟨⟨⟨[], [.discovered], []⟩, [], [], []⟩, []⟩

/-- A fixture scan with the testing profile, on the one opportunity. -/
def request : QueueRequest := .scan 0 .fixture "testing" ⟨false, 0⟩ false "0"

/-- The committed rows when the commit of the event fails. -/
def after : Records := request.handle .live start caller (some 10)

end LostEvent

/-- The scan is queued and the review moved, and the event is lost. -/
theorem failed_audit_keeps_scan :
    LostEvent.after.api.worker.scans.length = 1 ∧
    LostEvent.after.api.review 0 = some .testingPlanned ∧ LostEvent.after.audits = [] ∧
    ¬ LostEvent.request.Atomic .live LostEvent.start LostEvent.caller (some 10) := by
  have scans : LostEvent.after.api.worker.scans.length = 1 := by decide +kernel
  have audits : LostEvent.after.audits = [] := List.length_eq_zero_iff.mp (by decide +kernel)
  refine ⟨scans, by decide +kernel, audits, ?_⟩
  rintro (same | ⟨api, -, both⟩)
  · have none := congrArg (fun records => records.api.worker.scans.length) same
    exact absurd (scans.symm.trans none) (by decide)
  · have events := audits.symm.trans (congrArg Records.audits both)
    exact absurd events (by simp [LostEvent.start, LostEvent.request, auditRows, QueueRequest.events])

end RankRent.Api
