import RankRent.Library.Programs
import RankRent.Worker.RowMoves

/-!
# The completion of a leased run

`ScanPipeline.run` of `services/scanner.py` under an execution lease, statement
by statement, as far as its database session goes. The session sees what it has
flushed and what others commit to rows it has not written; others see what it
commits. What the stages return is given (`StageResults`); the provider's own
commits touch other rows.
-/

namespace RankRent.Pipeline

open Worker (Held startTarget startReason SameLease)

/-! ## Rows and sessions -/

/-- The kinds of artifact `run` saves. -/
inductive ArtifactKind
  | preliminaryAssessment | scanResult | discoveryReport | domainCandidates | outreachDrafts
  | siteConfig
  deriving DecidableEq

/-- The rows `_save_assessment_records` adds. -/
inductive AssessmentRecord
  | preliminaryAssessment
  | fullOpportunityScore
  | scoreComponent (component : String)
  deriving DecidableEq

/-- The rows a run of one scan touches. -/
structure Store where
  row : ScanRun
  review : OpportunityState
  artifacts : List ArtifactKind
  assessments : List AssessmentRecord

/-- The pipeline's session. `view` is what its own `SELECT`s return. -/
structure Session where
  committed : Store
  view : Store
  /-- The scan row as it was last loaded or flushed. -/
  loaded : ScanRun
  /-- The scan instance with its pending changes. -/
  scan : ScanRun
  /-- The opportunity instance. -/
  review : OpportunityState
  /-- Assessment rows added and not flushed. -/
  added : List AssessmentRecord
  /-- The transaction wrote the scan row, so others wait for it. -/
  locked : Bool

/-- A session before its first statement. -/
def Session.begin (store : Store) : Session where
  committed := store
  view := store
  loaded := store.row
  scan := store.row
  review := store.review
  added := []
  locked := false

/-- `session.flush()`. -/
def Session.flush (s : Session) : Session :=
  { s with
    view :=
      { s.view with
        row := ScanRun.flush s.loaded s.scan s.view.row
        review := s.review
        assessments := s.view.assessments ++ s.added }
    loaded := s.scan
    added := []
    locked := s.locked || decide (s.scan ≠ s.loaded) }

/-- `session.commit()`. -/
def Session.commit (s : Session) : Session :=
  { s.flush with committed := s.flush.view, locked := false }

/-- `session.rollback()`. -/
def Session.rollback (s : Session) : Session :=
  { s with view := s.committed, added := [], locked := false }

/-- `session.refresh(scan)`. -/
def Session.refresh (s : Session) : Session :=
  { s with loaded := s.view.row, scan := s.view.row }

/-! ## Statements -/

/-- What leaves `run` as an exception. -/
inductive Raised
  | leaseLost
  | cancelled
  | review (error : ReviewError)
  deriving DecidableEq

inductive Statement
  /-- `_ensure_lease`, locked or not. -/
  | ensureLease
  /-- The rest of `_ensure_not_cancelled`. -/
  | refresh
  /-- `session.get(ScanRunORM, existing_scan_id)`. -/
  | load
  | setStage (stage : ScanStage)
  /-- Attributes of the scan are set; the time is `datetime.now(UTC)`. -/
  | assign (change : ScanRun → DateTime → ScanRun)
  | transitionSystem (target : OpportunityState) (reason : String)
  | saveArtifact (kind : ArtifactKind)
  | saveAssessmentRecords (records : List AssessmentRecord)
  | flush
  | commit

/-- `_set_stage` on a row under the lease. The `UPDATE` also sets the two
attributes on the instance, so they are not pending at the commit. -/
def Session.enterStage (s : Session) (stage : ScanStage) : Session :=
  Session.refresh <| Session.commit
    { s with
      view := { s.view with row := s.view.row.enterStage s.scan stage }
      loaded := s.loaded.enterStage s.scan stage
      scan := s.scan.enterStage s.scan stage }

/-- One statement at time `now`. -/
def Session.exec (lease : ScanExecutionLease) (now : DateTime) (s : Session) :
    Statement → Session × Option Raised
  | .ensureLease => (s, if s.view.row.leaseCurrent lease now then none else some .leaseLost)
  | .refresh => (s.refresh, if s.view.row.cancelRequested then some .cancelled else none)
  | .load => (s.refresh, none)
  | .setStage stage =>
    if s.view.row.leaseCurrent lease now then (s.enterStage stage, none)
    else (s.rollback, some .leaseLost)
  | .assign change => ({ s with scan := change s.scan now }, none)
  | .transitionSystem target reason =>
    match RankRent.transitionSystem s.review target reason with
    | .error e => (s, some (.review e))
    | .ok next => (if s.review = target then s else Session.flush { s with review := next }, none)
  | .saveArtifact kind =>
    (Session.flush { s with view := { s.view with artifacts := s.view.artifacts ++ [kind] } }, none)
  | .saveAssessmentRecords records => ({ s with added := s.added ++ records }, none)
  | .flush => (s.flush, none)
  | .commit => (s.commit, none)

/-- What happens around a statement: the time it runs at, and what other
sessions have committed to the scan row since the last one. -/
structure Moment where
  now : DateTime
  others : ScanRun → ScanRun

/-- Others' commits reach the row unless the session has it locked. -/
def Session.meet (s : Session) (moment : Moment) : Session :=
  if s.locked then s
  else
    { s with
      committed := { s.committed with row := moment.others s.committed.row }
      view := { s.view with row := moment.others s.view.row } }

def step (lease : ScanExecutionLease) (moments : Nat → Moment) (n : Nat) (s : Session)
    (statement : Statement) : Session × Option Raised :=
  (s.meet (moments n)).exec lease (moments n).now statement

/-! ## The program -/

/-- What the stages of a run returned, and how it was asked to run. -/
structure StageResults where
  opportunityId : Nat
  source : ScanSource
  profile : ScanProfile
  /-- `is_preliminary_assessment`. -/
  preliminary : Bool
  buildSite : Bool
  /-- `selected_serp_keywords`. -/
  representative : List String
  evidenceQuality : OutputValue
  /-- `evidence_quality.status == "fail"`. -/
  qualityFailed : Bool
  /-- `score.evidence_status == "complete"`. -/
  evidenceComplete : Bool
  /-- The keys of `score.component_scores`. -/
  components : List String
  actualCost : Usd

/-- The review state of a finished scan. -/
def StageResults.target (r : StageResults) : OpportunityState :=
  if r.qualityFailed ∨ !r.preliminary ∧ !r.evidenceComplete then .needsMoreEvidence
  else if r.preliminary then .preliminaryReview
  else .fullReview

def StageResults.reason (r : StageResults) : String :=
  if r.qualityFailed ∨ !r.preliminary ∧ !r.evidenceComplete then
    "Scan completed but evidence requires remediation."
  else if r.preliminary then "Preliminary evidence is ready for review."
  else "Full evidence is ready for review."

/-- `_save_assessment_records`. -/
def StageResults.records (r : StageResults) : List AssessmentRecord :=
  (if r.preliminary then .preliminaryAssessment else .fullOpportunityScore) ::
    r.components.map .scoreComponent

/-- The artifacts saved before and after the assessment rows. -/
def StageResults.reports (r : StageResults) : List ArtifactKind :=
  [if r.preliminary then .preliminaryAssessment else .scanResult, .discoveryReport]

def StageResults.siteArtifacts (r : StageResults) : List ArtifactKind :=
  if r.buildSite then [.domainCandidates, .outreachDrafts, .siteConfig] else []

/-- `_ensure_not_cancelled`. -/
def ensureNotCancelled : List Statement := [.ensureLease, .refresh]

/-- The statements of `run` before its `try`. -/
def StageResults.prepare (r : StageResults) : List Statement :=
  [.ensureLease, .transitionSystem (startTarget r.preliminary) (startReason r.profile),
    .ensureLease, .load, .assign fun scan now => scan.prepareRun r.opportunityId r.source now,
    .flush]

/-- The stages, each entered after a check. -/
def StageResults.stages (r : StageResults) : List Statement :=
  ensureNotCancelled ++ [.setStage .discoveringKeywords] ++
  ensureNotCancelled ++ [.setStage .fetchingMetrics] ++
  ensureNotCancelled ++ [.setStage .fetchingSerps] ++
  r.representative.flatMap (fun _ => ensureNotCancelled) ++
  ensureNotCancelled ++ [.setStage .fetchingCompetitors] ++
  ensureNotCancelled ++ [.setStage .fetchingProviders] ++
  ensureNotCancelled ++ [.setStage .scoring] ++
  [.assign fun scan _ =>
      { scan with partialOutputs := scan.partialOutputs.put "evidence_quality" r.evidenceQuality },
    .setStage .persistingResults, .flush] ++
  ensureNotCancelled

/-- The finalisation up to the last lease check. -/
def StageResults.finalise (r : StageResults) : List Statement :=
  .assign (fun scan now => scan.completeRun r.actualCost now) ::
    (r.reports.map .saveArtifact ++ [.saveAssessmentRecords r.records] ++
      r.siteArtifacts.map .saveArtifact)

/-- The statements inside the `try`. -/
def StageResults.body (r : StageResults) : List Statement :=
  r.stages ++ .transitionSystem r.target r.reason :: (r.finalise ++ [.ensureLease, .commit])

/-- The `except` branches of `run`; the error text is `str(exc)`. -/
def handle (r : StageResults) (now : DateTime) (message : ReviewError → String) (s : Session) :
    Raised → Session
  | .leaseLost => s.rollback
  | .cancelled =>
    match RankRent.transitionSystem s.review .needsMoreEvidence cancelReason with
    | .error _ => s.rollback
    | .ok next => Session.commit { s with scan := s.scan.cancelRun r.actualCost now, review := next }
  | .review e =>
    let error : WorkerError := ⟨.opportunityReview, message e⟩
    match RankRent.transitionSystem s.review .needsMoreEvidence
        (failReason s.scan.progressStage error) with
    | .error _ => s.rollback
    | .ok next =>
      Session.commit { s with scan := s.scan.failRun error r.actualCost now, review := next }

/-- `ScanPipeline.run` from a fresh session on `store`; what is raised before
the `try` rolls back when the session closes. An `except` branch runs at time
`closing`. -/
def run (lease : ScanExecutionLease) (r : StageResults) (moments : Nat → Moment)
    (closing : DateTime) (message : ReviewError → String) (store : Store) :
    Session × Option Raised :=
  match Programs.run (step lease moments) 0 (.begin store) r.prepare with
  | (s, some raised) => (s.rollback, some raised)
  | (s, none) =>
    match Programs.run (step lease moments) (0 + r.prepare.length) s r.body with
    | (s, some raised) => (handle r closing message s raised, some raised)
    | (s, none) => (s, none)

/-! ## Runs whose lease is never in doubt -/

/-- At tick `n` the stored row runs under the lease, unexpired and with no
cancellation asked for. -/
def Holds (lease : ScanExecutionLease) (moments : Nat → Moment) (n : Nat) (s : Session) : Prop :=
  (s.meet (moments n)).committed.row.leaseCurrent lease (moments n).now = true ∧
    (s.meet (moments n)).committed.row.cancelRequested = false

instance (lease : ScanExecutionLease) (moments : Nat → Moment) (n : Nat) (s : Session) :
    Decidable (Holds lease moments n s) :=
  inferInstanceAs (Decidable (_ ∧ _))

/-- The lease stays current throughout, and the scan may start. -/
structure Undisturbed (lease : ScanExecutionLease) (r : StageResults) (moments : Nat → Moment)
    (store : Store) : Prop where
  holds : Programs.Throughout (Holds lease moments) (step lease moments) 0 (.begin store)
    (r.prepare ++ r.body)
  starts : RankRent.transitionSystem store.review (startTarget r.preliminary)
    (startReason r.profile) = .ok (startTarget r.preliminary)

/-- The database as a run leaves it before its last transaction: nothing saved,
and the lease as others see it. -/
structure Quiet (store : Store) (s : Session) : Prop where
  same : SameLease s.committed.row s.view.row
  expires : s.view.row.leaseExpiresAt = s.committed.row.leaseExpiresAt
  running : s.locked = true → s.view.row.status = .running
  unlocked : s.locked = false → s.view.row = s.committed.row
  committed : s.committed.artifacts = store.artifacts ∧ s.committed.assessments = store.assessments
  view : s.view.artifacts = store.artifacts ∧ s.view.assessments = store.assessments
  added : s.added = []

/-- Between stages: the instance is running and nothing but its outputs is
pending. -/
structure Staging (review : OpportunityState) (store : Store) (s : Session) : Prop
    extends Quiet store s where
  loaded : s.loaded.status = .running
  pending : s.scan = { s.loaded with partialOutputs := s.scan.partialOutputs }
  review : s.review = review

/-- The session sees a row it may go on with. -/
structure Current (lease : ScanExecutionLease) (now : DateTime) (s : Session) : Prop where
  stored : s.committed.row.leaseCurrent lease now = true
  current : s.view.row.leaseCurrent lease now = true
  wanted : s.view.row.cancelRequested = false

section Meeting
variable {lease : ScanExecutionLease} {moments : Nat → Moment} {n : Nat} {store : Store} {s : Session}

theorem Quiet.meet (quiet : Quiet store s) (moment : Moment) : Quiet store (s.meet moment) := by
  unfold Session.meet
  split
  · exact quiet
  · rename_i free
    have same := quiet.unlocked (by simpa using free)
    exact { same := by simp only [same]; exact ⟨rfl, rfl, rfl, rfl, rfl⟩
            expires := by simp only [same]
            running := fun locked => absurd locked free
            unlocked := fun _ => by simp only [same]
            committed := quiet.committed
            view := quiet.view
            added := quiet.added }

theorem Quiet.current (quiet : Quiet store s) (holds : Holds lease moments n s) :
    Current lease (moments n).now (s.meet (moments n)) := by
  have met := quiet.meet (moments n)
  obtain ⟨stored, wanted⟩ := holds
  obtain ⟨running, worker, token, expires, due, early⟩ := ScanRun.leaseCurrent_iff.mp stored
  refine ⟨stored, ScanRun.leaseCurrent_iff.mpr ⟨?_, ?_, ?_, expires, ?_, early⟩, ?_⟩
  · cases locked : (s.meet (moments n)).locked with
    | true => exact met.running locked
    | false =>
      rw [met.unlocked locked]
      exact running
  · rw [met.same.worker, worker]
  · rw [met.same.token, token]
  · rw [met.expires, due]
  · rw [met.same.cancel, wanted]

theorem Staging.meet {review : OpportunityState} (staging : Staging review store s)
    (moment : Moment) : Staging review store (s.meet moment) := by
  refine ⟨staging.toQuiet.meet moment, ?_, ?_, ?_⟩
  all_goals
    unfold Session.meet
    split
  · exact staging.loaded
  · exact staging.loaded
  · exact staging.pending
  · exact staging.pending
  · exact staging.review
  · exact staging.review

end Meeting

/-! ## Statements between stages -/

section Stages
variable {lease : ScanExecutionLease} {now : DateTime} {review : OpportunityState} {store : Store}
  {s : Session}

theorem status_of_current {row : ScanRun} (current : row.leaseCurrent lease now = true) :
    row.status = .running :=
  (Worker.leaseMatches_of_current current).1

/-- A flush that leaves the lease and the status alone. -/
theorem Quiet.flush (quiet : Quiet store s) (reviewed : s.review = review)
    (same : SameLease s.loaded s.scan) (expires : s.scan.leaseExpiresAt = s.loaded.leaseExpiresAt)
    (loaded : s.loaded.status = .running) (scan : s.scan.status = .running)
    (running : s.view.row.status = .running) : Staging review store s.flush := by
  have kept : SameLease s.view.row s.flush.view.row :=
    Worker.sameLease_flush same.worker same.token same.retries same.limit same.cancel
  exact { same := quiet.same.trans kept
          expires := by simp [Session.flush, ScanRun.flush, expires, quiet.expires]
          running := fun _ => by simp [Session.flush, ScanRun.flush, loaded, scan, running]
          unlocked := by
            intro free
            simp only [Session.flush, Bool.or_eq_false_iff, decide_eq_false_iff_not,
              Decidable.not_not] at free
            simp only [Session.flush, free.2, ScanRun.flush_unchanged]
            exact quiet.unlocked free.1
          committed := quiet.committed
          view := by simp [Session.flush, quiet.added, quiet.view]
          added := rfl
          loaded := scan
          pending := rfl
          review := reviewed }

theorem Staging.flush (staging : Staging review store s)
    (running : s.view.row.status = .running) : Staging review store s.flush := by
  have same : SameLease s.loaded s.scan := by
    rw [staging.pending]
    exact ⟨rfl, rfl, rfl, rfl, rfl⟩
  have expires : s.scan.leaseExpiresAt = s.loaded.leaseExpiresAt := by rw [staging.pending]
  have status : s.scan.status = .running := by
    rw [staging.pending]
    exact staging.loaded
  exact staging.toQuiet.flush staging.review same expires staging.loaded status running

theorem Quiet.refresh (quiet : Quiet store s) (reviewed : s.review = review)
    (running : s.view.row.status = .running) : Staging review store s.refresh :=
  { quiet with loaded := running, pending := rfl, review := reviewed }

/-- A stage commits what it wrote and nothing else of the scan row. -/
theorem Staging.enterStage (staging : Staging review store s)
    (running : s.view.row.status = .running) (stage : ScanStage) :
    Staging review store (s.enterStage stage) := by
  have synced : s.scan.enterStage s.scan stage = s.loaded.enterStage s.scan stage := by
    unfold ScanRun.enterStage
    rw [staging.pending]
  unfold Session.enterStage Session.commit Session.flush Session.refresh
  simp only [synced, ScanRun.flush_unchanged]
  exact { same := ⟨rfl, rfl, rfl, rfl, rfl⟩
          expires := rfl
          running := nofun
          unlocked := fun _ => rfl
          committed := by simp [staging.added, staging.view]
          view := by simp [staging.added, staging.view]
          added := rfl
          loaded := running
          pending := rfl
          review := staging.review }

theorem Staging.noteOutputs (staging : Staging review store s) (outputs : PartialOutputs) :
    Staging review store { s with scan := { s.scan with partialOutputs := outputs } } where
  toQuiet := { staging.toQuiet with }
  loaded := staging.loaded
  pending := by
    simp only
    rw [staging.pending]
  review := staging.review

/-- The transition at the end of the stages flushes the session. -/
theorem Staging.transition (staging : Staging review store s)
    (running : s.view.row.status = .running) {target : OpportunityState} {reason : String}
    (allowed : RankRent.transitionSystem review target reason = .ok target) :
    ∃ t, s.exec lease now (.transitionSystem target reason) = (t, none) ∧
      Staging target store t := by
  simp only [Session.exec, staging.review, allowed]
  split
  · rename_i same
    exact ⟨s, rfl, { staging with review := staging.review.trans same }⟩
  · have moved : Staging target store { s with review := target } :=
      { toQuiet := { staging.toQuiet with }
        loaded := staging.loaded
        pending := staging.pending
        review := rfl }
    exact ⟨_, rfl, moved.flush running⟩

end Stages

/-- The statements of `StageResults.stages`. -/
inductive Between : Statement → Prop
  | ensureLease : Between .ensureLease
  | refresh : Between .refresh
  | setStage (stage : ScanStage) : Between (.setStage stage)
  | noteOutputs (f : PartialOutputs → PartialOutputs) :
      Between (.assign fun scan _ => { scan with partialOutputs := f scan.partialOutputs })
  | flush : Between .flush

theorem between_ensureNotCancelled : ∀ c ∈ ensureNotCancelled, Between c := by
  simp only [ensureNotCancelled, List.mem_cons, List.not_mem_nil, or_false]
  rintro c (rfl | rfl)
  · exact .ensureLease
  · exact .refresh

theorem between_stages (r : StageResults) : ∀ c ∈ r.stages, Between c := by
  intro c member
  simp only [StageResults.stages, List.mem_append, List.mem_flatMap, List.mem_cons,
    List.not_mem_nil, or_false, or_assoc] at member
  rcases member with checks | rfl | checks | rfl | checks | rfl | ⟨-, -, checks⟩ | checks | rfl |
    checks | rfl | checks | rfl | rfl | rfl | rfl | checks
  all_goals first
    | exact between_ensureNotCancelled c checks
    | exact .setStage _
    | exact .flush
    | exact .noteOutputs fun outputs => outputs.put "evidence_quality" r.evidenceQuality

section Runs
variable {lease : ScanExecutionLease} {moments : Nat → Moment} {review : OpportunityState}
  {store : Store}

theorem between_keeps {c : Statement} (between : Between c) (n : Nat) (s : Session)
    (staging : Staging review store s) (holds : Holds lease moments n s) :
    ∃ t, step lease moments n s c = (t, none) ∧ Staging review store t := by
  have met := staging.meet (moments n)
  have current := staging.toQuiet.current holds
  have running := status_of_current current.current
  cases between with
  | ensureLease => exact ⟨_, by simp [step, Session.exec, current.current], met⟩
  | refresh =>
    exact ⟨_, by simp only [step, Session.exec, current.wanted]; rfl,
      met.toQuiet.refresh met.review running⟩
  | setStage stage =>
    exact ⟨_, by simp only [step, Session.exec, current.current]; rfl, met.enterStage running stage⟩
  | noteOutputs f => exact ⟨_, rfl, met.noteOutputs _⟩
  | flush => exact ⟨_, rfl, met.flush running⟩

/-! ## Before the `try` -/

/-- Nothing of the scan row is pending yet. -/
structure Opening (review : OpportunityState) (store : Store) (s : Session) : Prop
    extends Quiet store s where
  pending : s.scan = s.loaded
  review : s.review = review

theorem Opening.meet {s : Session} (opening : Opening review store s) (moment : Moment) :
    Opening review store (s.meet moment) := by
  refine ⟨opening.toQuiet.meet moment, ?_, ?_⟩
  all_goals
    unfold Session.meet
    split
  · exact opening.pending
  · exact opening.pending
  · exact opening.review
  · exact opening.review

theorem opening_begin (store : Store) : Opening store.review store (.begin store) where
  same := ⟨rfl, rfl, rfl, rfl, rfl⟩
  expires := rfl
  running := nofun
  unlocked := fun _ => rfl
  committed := ⟨rfl, rfl⟩
  view := ⟨rfl, rfl⟩
  added := rfl
  pending := rfl
  review := rfl

theorem opening_ensureLease (n : Nat) (s : Session) (opening : Opening review store s)
    (holds : Holds lease moments n s) :
    ∃ t, step lease moments n s .ensureLease = (t, none) ∧ Opening review store t := by
  have current := opening.toQuiet.current holds
  exact ⟨_, by simp [step, Session.exec, current.current], opening.meet (moments n)⟩

theorem opening_transition {target : OpportunityState} {reason : String}
    (allowed : RankRent.transitionSystem review target reason = .ok target) (n : Nat) (s : Session)
    (opening : Opening review store s) (_ : Holds lease moments n s) :
    ∃ t, step lease moments n s (.transitionSystem target reason) = (t, none) ∧
      Opening target store t := by
  have met := opening.meet (moments n)
  simp only [step, Session.exec, met.review, allowed]
  split
  · rename_i same
    exact ⟨_, rfl, { met with review := met.review.trans same }⟩
  · refine ⟨_, rfl, ?_⟩
    simp only [Session.flush, met.pending, ScanRun.flush_unchanged, met.added, List.append_nil]
    exact { same := met.same
            expires := met.expires
            running := by simpa using met.running
            unlocked := by simpa using met.unlocked
            committed := met.committed
            view := met.view
            added := rfl
            pending := met.pending.symm ▸ rfl
            review := rfl }

theorem opening_load (n : Nat) (s : Session) (opening : Opening review store s)
    (holds : Holds lease moments n s) :
    ∃ t, step lease moments n s .load = (t, none) ∧ Staging review store t := by
  have met := opening.meet (moments n)
  have running := status_of_current (opening.toQuiet.current holds).current
  exact ⟨_, rfl, met.toQuiet.refresh met.review running⟩

/-- `_prepare_scan_run` is pending. -/
structure Preparing (review : OpportunityState) (store : Store) (s : Session) : Prop
    extends Quiet store s where
  loaded : s.loaded.status = .running
  scan : s.scan.status = .running
  kept : SameLease s.loaded s.scan
  keptExpiry : s.scan.leaseExpiresAt = s.loaded.leaseExpiresAt
  review : s.review = review

theorem preparing_assign (opportunity : Nat) (source : ScanSource) (n : Nat) (s : Session)
    (staging : Staging review store s) (_ : Holds lease moments n s) :
    ∃ t, step lease moments n s (.assign fun scan now => scan.prepareRun opportunity source now) =
        (t, none) ∧ Preparing review store t := by
  have met := staging.meet (moments n)
  refine ⟨_, rfl, { toQuiet := { met.toQuiet with }, loaded := met.loaded, scan := rfl,
                    kept := ?_, keptExpiry := ?_, review := met.review }⟩
  · simp only [ScanRun.prepareRun]
    rw [met.pending]
    exact ⟨rfl, rfl, rfl, rfl, rfl⟩
  · simp only [ScanRun.prepareRun]
    rw [met.pending]

theorem Preparing.meet {s : Session} (preparing : Preparing review store s) (moment : Moment) :
    Preparing review store (s.meet moment) := by
  have quiet := preparing.toQuiet.meet moment
  revert quiet
  unfold Session.meet
  split
  · exact fun _ => preparing
  · exact fun quiet => { preparing with toQuiet := quiet }

theorem preparing_flush (n : Nat) (s : Session) (preparing : Preparing review store s)
    (holds : Holds lease moments n s) :
    ∃ t, step lease moments n s .flush = (t, none) ∧ Staging review store t := by
  have met := preparing.meet (moments n)
  have running := status_of_current (preparing.toQuiet.current holds).current
  exact ⟨_, rfl, met.toQuiet.flush met.review met.kept met.keptExpiry met.loaded met.scan running⟩

/-- Nothing is raised before the `try`. -/
theorem prepare_runs {r : StageResults} (undisturbed : Undisturbed lease r moments store) :
    ∃ s, Programs.run (step lease moments) 0 (.begin store) r.prepare = (s, none) ∧
      Staging (startTarget r.preliminary) store s := by
  have through := undisturbed.holds.left
  unfold StageResults.prepare at through ⊢
  obtain ⟨s₁, opened, run₁, through₁⟩ :=
    Programs.run_step opening_ensureLease (opening_begin store) through
  obtain ⟨s₂, moved, run₂, through₂⟩ :=
    Programs.run_step (opening_transition undisturbed.starts) opened through₁
  obtain ⟨s₃, checked, run₃, through₃⟩ := Programs.run_step opening_ensureLease moved through₂
  obtain ⟨s₄, loaded, run₄, through₄⟩ := Programs.run_step opening_load checked through₃
  obtain ⟨s₅, prepared, run₅, through₅⟩ :=
    Programs.run_step (preparing_assign r.opportunityId r.source) loaded through₄
  obtain ⟨s₆, staging, run₆, -⟩ := Programs.run_step preparing_flush prepared through₅
  refine ⟨s₆, ?_, staging⟩
  rw [run₁, run₂, run₃, run₄, run₅, run₆]
  rfl

/-! ## The last transaction -/

/-- Nothing of the run's results is committed. -/
structure Unsaved (store : Store) (s : Session) : Prop where
  artifacts : s.committed.artifacts = store.artifacts
  assessments : s.committed.assessments = store.assessments

theorem Unsaved.meet {s : Session} (unsaved : Unsaved store s) (moment : Moment) :
    Unsaved store (s.meet moment) := by
  unfold Session.meet
  split
  · exact unsaved
  · exact ⟨unsaved.artifacts, unsaved.assessments⟩

/-- The completed status is set on the instance. -/
structure Completing (store : Store) (s : Session) : Prop extends Unsaved store s where
  loaded : s.loaded.status = .running
  scan : s.scan.status = .completed

/-- The completed status is flushed. -/
structure Completed (store : Store) (s : Session) : Prop extends Unsaved store s where
  locked : s.locked = true
  view : s.view.row.status = .completed
  loaded : s.loaded.status = .completed
  scan : s.scan.status = .completed

theorem Completing.meet {s : Session} (completing : Completing store s) (moment : Moment) :
    Completing store (s.meet moment) := by
  have unsaved := completing.toUnsaved.meet moment
  revert unsaved
  unfold Session.meet
  split
  · exact fun _ => completing
  · exact fun unsaved => { completing with toUnsaved := unsaved }

theorem completing_assign (cost : Usd) (n : Nat) (s : Session)
    (staging : Staging review store s) (_ : Holds lease moments n s) :
    ∃ t, step lease moments n s (.assign fun scan now => scan.completeRun cost now) = (t, none) ∧
      Completing store t := by
  have met := staging.meet (moments n)
  exact ⟨_, rfl, ⟨met.committed.1, met.committed.2⟩, met.loaded, rfl⟩

/-- The first artifact flushes the status with it. -/
theorem completing_saveArtifact (kind : ArtifactKind) (n : Nat) (s : Session)
    (completing : Completing store s) (_ : Holds lease moments n s) :
    ∃ t, step lease moments n s (.saveArtifact kind) = (t, none) ∧ Completed store t := by
  have met := completing.meet (moments n)
  refine ⟨_, rfl, ⟨met.artifacts, met.assessments⟩, ?_, ?_, met.scan, met.scan⟩
  · have differ : (s.meet (moments n)).scan ≠ (s.meet (moments n)).loaded := by
      intro same
      have status := met.scan
      rw [same, met.loaded] at status
      cases status
    simp [Session.flush, differ]
  · simp [Session.flush, ScanRun.flush, met.loaded, met.scan, written]

/-- A locked row is out of others' reach. -/
theorem Completed.meet {s : Session} (completed : Completed store s) (moment : Moment) :
    s.meet moment = s := by
  simp [Session.meet, completed.locked]

theorem completed_saveArtifact (kind : ArtifactKind) (n : Nat) (s : Session)
    (completed : Completed store s) (_ : Holds lease moments n s) :
    ∃ t, step lease moments n s (.saveArtifact kind) = (t, none) ∧ Completed store t := by
  refine ⟨_, rfl, ?_⟩
  rw [completed.meet]
  refine ⟨⟨completed.artifacts, completed.assessments⟩, ?_, ?_, completed.scan, completed.scan⟩
  · simp [Session.flush, completed.locked]
  · simp [Session.flush, ScanRun.flush, completed.loaded, completed.scan, completed.view]

theorem completed_saveAssessmentRecords (records : List AssessmentRecord) (n : Nat) (s : Session)
    (completed : Completed store s) (_ : Holds lease moments n s) :
    ∃ t, step lease moments n s (.saveAssessmentRecords records) = (t, none) ∧
      Completed store t := by
  refine ⟨_, rfl, ?_⟩
  rw [completed.meet]
  exact { completed with }

/-- What is left of the finalisation once the first artifact is saved. -/
def StageResults.saves (r : StageResults) : List Statement :=
  .saveArtifact .discoveryReport :: .saveAssessmentRecords r.records ::
    r.siteArtifacts.map .saveArtifact

theorem completed_saves (r : StageResults) : ∀ c ∈ r.saves, ∀ (n : Nat) (s : Session),
    Completed store s → Holds lease moments n s →
    ∃ t, step lease moments n s c = (t, none) ∧ Completed store t := by
  intro c member
  simp only [StageResults.saves, List.mem_cons, List.mem_map] at member
  rcases member with rfl | rfl | ⟨kind, -, rfl⟩
  · exact completed_saveArtifact _
  · exact completed_saveAssessmentRecords _
  · exact completed_saveArtifact kind

/-- The last lease check reads the flushed status. -/
theorem completed_ensureLease {n : Nat} {s : Session} (completed : Completed store s) :
    step lease moments n s .ensureLease = (s, some .leaseLost) := by
  have stale : ¬ s.view.row.leaseCurrent lease (moments n).now = true := by
    intro current
    have running := status_of_current current
    rw [completed.view] at running
    cases running
  simp [step, Session.exec, completed.meet, stale]

theorem transition_finish (r : StageResults) :
    RankRent.transitionSystem (startTarget r.preliminary) r.target r.reason = .ok r.target := by
  unfold StageResults.target StageResults.reason
  cases r.preliminary <;> cases r.qualityFailed <;> cases r.evidenceComplete <;> decide

/-- Inside the `try` a leased run always ends at its last lease check. -/
theorem body_raises {r : StageResults} {n : Nat} {s : Session}
    (staging : Staging (startTarget r.preliminary) store s)
    (through : Programs.Throughout (Holds lease moments) (step lease moments) n s r.body) :
    ∃ t, Programs.run (step lease moments) n s r.body = (t, some .leaseLost) ∧
      Unsaved store t ∧ t.committed.row.status = .running := by
  have split_ : r.body = r.stages ++ .transitionSystem r.target r.reason ::
      .assign (fun scan now => scan.completeRun r.actualCost now) ::
      .saveArtifact (if r.preliminary then .preliminaryAssessment else .scanResult) ::
      (r.saves ++ [.ensureLease, .commit]) := by
    simp [StageResults.body, StageResults.finalise, StageResults.reports, StageResults.saves]
  rw [split_] at through ⊢
  have moves (n : Nat) (s : Session) (staging : Staging (startTarget r.preliminary) store s)
      (holds : Holds lease moments n s) :
      ∃ t, step lease moments n s (.transitionSystem r.target r.reason) = (t, none) ∧
        Staging r.target store t :=
    (staging.meet (moments n)).transition
      (status_of_current (staging.toQuiet.current holds).current) (transition_finish r)
  obtain ⟨m, s₁, staged, run₁, through₁⟩ :=
    Programs.run_block (fun c member => between_keeps (between_stages r c member)) staging through
  obtain ⟨s₂, moved, run₂, through₂⟩ := Programs.run_step moves staged through₁
  obtain ⟨s₃, completing, run₃, through₃⟩ :=
    Programs.run_step (completing_assign r.actualCost) moved through₂
  obtain ⟨s₄, completed, run₄, through₄⟩ :=
    Programs.run_step (completing_saveArtifact _) completing through₃
  obtain ⟨k, s₅, saved, run₅, through₅⟩ :=
    Programs.run_block (completed_saves r) completed through₄
  refine ⟨s₅, ?_, saved.toUnsaved, ?_⟩
  · rw [run₁, run₂, run₃, run₄, run₅]
    exact Programs.run_of_raise (completed_ensureLease saved) _
  · have stored := through₅.1.1
    rw [saved.meet] at stored
    exact status_of_current stored

end Runs

/-- However the evidence turned out, a leased run that nobody disturbs ends with
`ScanLeaseLost`: its scan is still running and nothing it found is saved. -/
theorem leased_run_never_completes {lease : ScanExecutionLease} {r : StageResults}
    {moments : Nat → Moment} {store : Store} (undisturbed : Undisturbed lease r moments store)
    (closing : DateTime) (message : ReviewError → String) :
    (run lease r moments closing message store).2 = some .leaseLost ∧
      (run lease r moments closing message store).1.committed.row.status = .running ∧
      (run lease r moments closing message store).1.committed.artifacts = store.artifacts ∧
      (run lease r moments closing message store).1.committed.assessments = store.assessments := by
  obtain ⟨s, prepared, staging⟩ := prepare_runs undisturbed
  obtain ⟨t, raised, unsaved, running⟩ :=
    body_raises staging (undisturbed.holds.right prepared)
  unfold run
  rw [prepared]
  simp only [raised]
  exact ⟨trivial, running, unsaved.artifacts, unsaved.assessments⟩

/-- A scan one worker has just claimed. -/
def claimedStore : Store where
  row := (ScanRun.enqueue 0 .manualAsync 0 3).claim "w1" "t1" 0 30
  review := .discovered
  artifacts := []
  assessments := []

/-- A preliminary assessment with good evidence and one SERP keyword. -/
def goodEvidence : StageResults where
  opportunityId := 0
  source := .manualAsync
  profile := .testing
  preliminary := true
  buildSite := false
  representative := ["plumber austin"]
  evidenceQuality := .text "pass"
  qualityFailed := false
  evidenceComplete := true
  components := ["demand", "competition"]
  actualCost := 1 / 10

/-- One statement a second, with a heartbeat before each. -/
def beats (n : Nat) : Moment := ⟨n, fun row => row.heartbeat n 30⟩

theorem claimedStore_undisturbed :
    Undisturbed ⟨0, "w1", "t1"⟩ goodEvidence beats claimedStore where
  holds := by decide +kernel
  starts := by decide +kernel

theorem good_evidence_never_completes :
    (run ⟨0, "w1", "t1"⟩ goodEvidence beats 60 (fun _ => "") claimedStore).2 = some .leaseLost ∧
      (run ⟨0, "w1", "t1"⟩ goodEvidence beats 60 (fun _ => "") claimedStore).1.committed.row.status =
        .running ∧
      (run ⟨0, "w1", "t1"⟩ goodEvidence beats 60 (fun _ => "") claimedStore).1.committed.artifacts =
        [] ∧
      (run ⟨0, "w1", "t1"⟩ goodEvidence beats 60 (fun _ => "") claimedStore).1.committed.assessments =
        [] :=
  leased_run_never_completes claimedStore_undisturbed 60 fun _ => ""

theorem leased_run_not_completed :
    ¬ ∀ (lease : ScanExecutionLease) (r : StageResults) (moments : Nat → Moment)
      (closing : DateTime) (message : ReviewError → String) (store : Store),
      Undisturbed lease r moments store →
      (run lease r moments closing message store).1.committed.row.status = .completed ∧
        (run lease r moments closing message store).1.committed.artifacts =
          store.artifacts ++ r.reports ++ r.siteArtifacts ∧
        (run lease r moments closing message store).1.committed.assessments =
          store.assessments ++ r.records := by
  intro completes
  have status := (completes _ _ _ 60 (fun _ => "") _ claimedStore_undisturbed).1
  revert status
  decide +kernel

end RankRent.Pipeline
