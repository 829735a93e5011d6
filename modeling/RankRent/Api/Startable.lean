import RankRent.Api.Running

/-!
# Queued scans start and cancel

`_queue_scan` plans a testing scan as `testing_planned`, the pipeline starts it
as `full_running` unless it is live, and neither the endpoints nor the people
who move a review look at the scan that waits for it.
-/

namespace RankRent.Api

/-- `transition_system` takes the review to the state the scan starts in. -/
def Job.startable (job : Job) (review : OpportunityState) : Bool :=
  review = job.startTarget || job.startTarget ∈ review.allowed

/-- The scan's opportunity is in a state it can start from. -/
def ReadyFor (s : State) (job : Job) : Prop :=
  ∃ review, s.review job.opportunity = some review ∧ job.startable review = true

/-- The queued scans of the opportunity can start from the state. -/
def Respects (s : State) (o : Nat) (target : OpportunityState) : Prop :=
  ∀ (i : Nat) (scan : ScanRun) (job : Job), s.worker.scans[i]? = some scan →
    s.jobs[i]? = some job → scan.status = .queued → job.opportunity = o →
    job.startable target = true

/-- A testing scan is live; a full scan can start from where its opportunity is,
or from `discovered` where it is new. -/
def Queueable (s : State) (job : Job) : Prop :=
  match job.scanProfile with
  | .testing => job.dataMode = .live
  | .full => job.startable ((s.review job.opportunity).getD .discovered) = true

/-- Scans are queued, and queued again, where they can start, and a review with
a queued scan moves to a state that scan can start from. -/
def StartsFrom (settings : Settings) (s : State) : Op → Prop
  | .scan o mode profile .. => ∀ scanned ∈ scanProfile profile,
      Queueable s ⟨(s.resolve o).1, mode, scanned, none⟩
  | .retry i _ => ∀ job ∈ s.jobs[i]?, Queueable s
      ⟨(s.resolve job.opportunity).1, job.dataMode, job.scanProfile, some i⟩
  | .promote o target .. => (s.resolve target).1 = o ∨
      Queueable s ⟨(s.resolve target).1, .live, .full, none⟩
  | .queueBatch b => ∀ batch ∈ s.batches[b]?, ∀ entry ∈ batchRows batch, ReadyFor s entry.2
  | .transition o target .. => Respects s o target
  | .createBatch profile _ _ _ plans => profile = .testing → ∀ entry ∈ plans,
      Respects s entry.1 .testingPlanned
  | .confirmBatch b .. => ∀ batch ∈ s.batches[b]?, batch.scanProfile = .full →
      ∀ item ∈ batch.items, Respects s item.opportunity .fullScanApproved
  | .manual k (.complete target ..) _ => ∀ run ∈ s.manuals[k]?, ∀ job ∈ s.jobs[run.scan]?,
      Respects s job.opportunity target
  | .worker (.recover staleAfter now _) => ∀ (i : Nat) (scan : ScanRun) (job : Job),
      s.worker.scans[i]? = some scan → s.jobs[i]? = some job →
      Worker.staleScan now (now - staleAfter) scan = true →
      gaveUp settings staleAfter now scan = false → ReadyFor s job
  | .worker op => ∀ (i : Nat) (scan : ScanRun) (job : Job), Revives s i (.worker op) .queued →
      s.worker.scans[i]? = some scan → s.jobs[i]? = some job → scan.status = .failed →
      ReadyFor s job
  | _ => True

/-- Every queued scan can start. -/
def QueuedReady (s : State) : Prop :=
  ∀ (i : Nat) (scan : ScanRun) (job : Job), s.worker.scans[i]? = some scan →
    s.jobs[i]? = some job → scan.status = .queued → ReadyFor s job

section Ready
variable {s t : State}

theorem startable_needsMoreEvidence (job : Job) : job.startable .needsMoreEvidence = true := by
  unfold Job.startable Job.startTarget Worker.startTarget
  split <;> rfl

theorem startable_testingPlanned {job : Job} (live : job.dataMode = .live)
    (testing : job.scanProfile = .testing) : job.startable .testingPlanned = true := by
  have preliminary : job.preliminary = true := by simp [Job.preliminary, live, testing]
  simp only [Job.startable, Job.startTarget, preliminary]
  rfl

/-- Two active scans of an opportunity count as two. -/
theorem two_active {i j o : Nat} {scan other : ScanRun} (differ : i ≠ j)
    (found : s.worker.scans[i]? = some scan) (there : s.worker.scans[j]? = some other)
    (first : activeFor scan o = true) (second : activeFor other o = true) : 2 ≤ s.activeScans o := by
  rcases Nat.lt_or_gt_of_ne differ with before | after
  · exact Table.two_le_countP before found there first second
  · exact Table.two_le_countP after there found second first

/-- A scan queued before and after, whose opportunity's review stays or moves
to a state it can start from. -/
theorem ReadyFor.moved {job : Job} (ready : ReadyFor s job)
    (moves : t.review job.opportunity = s.review job.opportunity ∨
      ∃ target, t.review job.opportunity = some target ∧ job.startable target = true) :
    ReadyFor t job := by
  rcases moves with same | ⟨target, moved, starts⟩
  · unfold ReadyFor
    rw [same]
    exact ready
  · exact ⟨target, moved, starts⟩

/-- The review of an opportunity, where one row moves. -/
theorem RowStep.moves {i : Nat} {job : Job} {old new : ScanRun} {review : Option OpportunityState}
    (move : RowStep s t i job old new review) {o : Nat} {state : OpportunityState}
    (there : s.review o = some state) :
    t.review o = s.review o ∨
      o = job.opportunity ∧ ∃ target, review = some target ∧ t.review o = some target := by
  unfold State.review at there ⊢
  rw [move.reviews]
  cases review with
  | none => exact Or.inl rfl
  | some target =>
    by_cases same : o = job.opportunity
    · subst same
      exact Or.inr ⟨rfl, target, rfl, List.getElem?_set_self (List.getElem?_eq_some_iff.mp there).1⟩
    · exact Or.inl (List.getElem?_set_ne (Ne.symm same))

/-- One row moves: it is ready if it is queued after, and the other queued
scans of its opportunity can start from where the review goes. -/
theorem RowStep.ready {i : Nat} {job : Job} {old new : ScanRun} {review : Option OpportunityState}
    (move : RowStep s t i job old new review) (ready : QueuedReady s)
    (mine : new.status = .queued → ReadyFor s job ∧
      ∀ target, review = some target → job.startable target = true)
    (others : ∀ (j : Nat) (scan : ScanRun) (owner : Job) target, i ≠ j →
      s.worker.scans[j]? = some scan → s.jobs[j]? = some owner → scan.status = .queued →
      owner.opportunity = job.opportunity → review = some target → owner.startable target = true) :
    QueuedReady t := by
  intro j scan owner found owned queued
  rw [move.jobs] at owned
  rw [move.scans] at found
  obtain ⟨rfl, rfl⟩ | ⟨differ, there⟩ := Table.getElem?_set_cases found
  · obtain rfl : job = owner := Option.some.inj (move.owned.symm.trans owned)
    obtain ⟨before, starts⟩ := mine queued
    obtain ⟨state, reviewed, -⟩ := id before
    refine before.moved ((move.moves reviewed).imp_right ?_)
    rintro ⟨-, target, goes, moved⟩
    exact ⟨target, moved, starts target goes⟩
  · have before := ready j scan owner there owned queued
    obtain ⟨state, reviewed, -⟩ := id before
    refine before.moved ((move.moves reviewed).imp_right ?_)
    rintro ⟨same, target, goes, moved⟩
    exact ⟨target, moved, others j scan owner target differ there owned queued same goes⟩

theorem activeFor_queued {scan : ScanRun} {o : Nat} (mine : scan.opportunityId = some o)
    (queued : scan.status = .queued) : activeFor scan o = true := by
  simp [activeFor, mine, active, queued]

/-- An event of a pipeline, where at most one scan of its opportunity is active
before and after. -/
theorem RowEvent.ready {settings : Settings} {op : Op} {i : Nat} {job : Job} {old new : ScanRun}
    {review : Option OpportunityState} (move : RowStep s t i job old new review)
    (event : RowEvent job.startTarget (s.review job.opportunity = none) (Revives s i op)
      (Completes s i op) old new review) (linked : Linked s) (starts : StartsFrom settings s op)
    (before : s.activeScans job.opportunity ≤ 1) (after : t.activeScans job.opportunity ≤ 1)
    (ready : QueuedReady s) : QueuedReady t := by
  have kept (queued : old.status = .queued) : ReadyFor s job :=
    ready i old job move.found move.owned queued
  have waits {j : Nat} {scan : ScanRun} {owner : Job} (there : s.worker.scans[j]? = some scan)
      (owned : s.jobs[j]? = some owner) (queued : scan.status = .queued)
      (same : owner.opportunity = job.opportunity) : activeFor scan job.opportunity = true :=
    activeFor_queued (same ▸ linked.rows j scan owner there owned) queued
  cases event with
  | idle status =>
    refine move.ready ready (fun queued => ⟨kept (status ▸ queued), nofun⟩) ?_
    intro j scan owner target _ _ _ _ _ none
    cases none
  | requeued final failed _ =>
    refine move.ready ready (fun _ => ⟨?_, nofun⟩) ?_
    · cases op with
      | worker op =>
        cases op with
        | recover staleAfter now jitter =>
          obtain ⟨e, run, event, -⟩ := final
          cases event
        | _ => exact starts i old job final move.found move.owned failed
      | _ => cases final
    · intro j scan owner target _ _ _ _ _ none
      cases none
  | unreviewed _ status =>
    refine move.ready ready (fun queued => ?_) ?_
    · rw [status] at queued
      cases queued
    · intro j scan owner target _ _ _ _ _ none
      cases none
  | ended status =>
    refine move.ready ready (fun queued => ?_) ?_
    · rcases status with same | failed | cancelled
      · refine ⟨kept (same ▸ queued), ?_⟩
        rintro target ⟨⟩
        exact startable_needsMoreEvidence job
      · rw [failed] at queued
        cases queued
      · rw [cancelled] at queued
        cases queued
    · rintro j scan owner target _ _ _ _ _ ⟨⟩
      exact startable_needsMoreEvidence owner
  | started _ status =>
    refine move.ready ready (fun queued => ?_) ?_
    · rw [status] at queued
      cases queued
    · -- The started scan and the one that waits would both be active.
      intro j scan owner target differ there owned queued same _
      have here : t.worker.scans[i]? = some new := by
        rw [move.scans, List.getElem?_set_self (List.getElem?_eq_some_iff.mp move.found).1]
      have stays : t.worker.scans[j]? = some scan := by
        rw [move.scans, List.getElem?_set_ne differ, there]
      have two := two_active differ here stays (by simp [activeFor, move.stays, active, status])
        (waits there owned queued same)
      omega
  | @completed target legal leased status =>
    have respects : Completes s i op target → Respects s job.opportunity target := by
      intro finished
      cases op with
      | manual k step now =>
        obtain ⟨completes, run, found, rfl⟩ := finished
        cases step with
        | complete goal reason cost =>
          cases completes
          exact starts run found job move.owned
        | _ => cases completes
      | _ => cases finished
    refine move.ready ready (fun queued => ?_) ?_
    · rcases status with same | finished
      · rcases leased with finished | running
        · refine ⟨kept (same ▸ queued), ?_⟩
          rintro goal ⟨⟩
          exact respects finished i old job move.found move.owned (same ▸ queued) rfl
        · rw [same, running] at queued
          cases queued
      · rw [finished] at queued
        cases queued
    · rintro j scan owner goal differ there owned queued same ⟨⟩
      rcases leased with finished | running
      · exact respects finished j scan owner there owned queued same
      · have two := two_active differ move.found there
          (by simp [activeFor, move.mine, active, running]) (waits there owned queued same)
        omega

/-- A request: the queued scans of the opportunities it moves can start from
there, and so can the scans it queues from where it leaves theirs. -/
theorem Request.ready {rows : List (ScanRun × Job)} {touched : List Nat}
    {target : OpportunityState} (request : Request s t rows touched target) (linked : Linked s)
    (ready : QueuedReady s) (respects : ∀ o ∈ touched, Respects s o target)
    (added : ∀ entry ∈ rows, entry.1.status = .queued → ReadyFor t entry.2) : QueuedReady t := by
  intro j scan owner found owned queued
  rw [request.scans] at found
  rw [request.jobs] at owned
  by_cases old : j < s.worker.scans.length
  · rw [List.getElem?_append_left old] at found
    rw [List.getElem?_append_left (by rw [linked.length]; exact old)] at owned
    have before := ready j scan owner found owned queued
    refine before.moved ?_
    by_cases member : owner.opportunity ∈ touched
    · exact Or.inr ⟨target, request.moved _ member,
        respects _ member j scan owner found owned queued rfl⟩
    · refine Or.inl ((request.kept _ member).resolve_right fun created => ?_)
      obtain ⟨state, there, -⟩ := before
      rw [there] at created
      cases created.1
  · rw [List.getElem?_append_right (by omega)] at found
    rw [List.getElem?_append_right (by rw [linked.length]; omega), linked.length] at owned
    rw [List.getElem?_map] at found owned
    obtain ⟨entry, there, rfl⟩ := Option.map_eq_some_iff.mp found
    rw [there] at owned
    cases owned
    exact added entry (List.mem_of_getElem? there) queued

/-- No scan waits for an opportunity without active scans. -/
theorem respects_of_free (linked : Linked s) {o : Nat} (free : s.busy o = false)
    (target : OpportunityState) : Respects s o target := by
  rintro i scan job found owned queued rfl
  have busy := busy_iff.mpr ⟨i, scan, found,
    activeFor_queued (linked.rows i scan job found owned) queued⟩
  rw [free] at busy
  cases busy

/-- The scan `_queue_scan` adds. -/
theorem ready_queued {rows : List (ScanRun × Job)} {job : Job}
    (request : Request s t rows (if job.scanProfile = .testing then [job.opportunity] else [])
      .testingPlanned) (opened : t.review job.opportunity ≠ none) (queueable : Queueable s job) :
    ReadyFor t job := by
  unfold Queueable at queueable
  cases profile : job.scanProfile with
  | testing =>
    simp only [profile] at queueable
    refine ⟨.testingPlanned, request.moved _ (by simp [profile]), ?_⟩
    exact startable_testingPlanned queueable profile
  | full =>
    simp only [profile] at queueable
    rcases request.kept job.opportunity (by simp [profile]) with same | ⟨missing, created⟩
    · obtain ⟨state, there⟩ := Option.ne_none_iff_exists'.mp opened
      rw [← same, there] at queueable
      exact ⟨state, there, queueable⟩
    · rw [missing] at queueable
      exact ⟨_, created, queueable⟩

/-- The full scan `api_opportunity_promote` adds. -/
theorem ready_promoted {rows : List (ScanRun × Job)} {o p : Nat} {source : Option Nat}
    (request : Request s t rows [o] .fullScanApproved) (opened : t.review p ≠ none)
    (starts : p = o ∨ Queueable s ⟨p, .live, .full, none⟩) : ReadyFor t ⟨p, .live, .full, source⟩ := by
  by_cases same : p = o
  · exact ⟨.fullScanApproved, request.moved p (List.mem_singleton.mpr same), rfl⟩
  · have queueable := starts.resolve_left same
    rcases request.kept p (by simpa using same) with kept | ⟨missing, created⟩
    · obtain ⟨state, there⟩ := Option.ne_none_iff_exists'.mp opened
      simp only [Queueable, ← kept, there, Option.getD_some] at queueable
      exact ⟨state, there, queueable⟩
    · exact ⟨.discovered, created, rfl⟩

theorem recovered_status (settings : Settings) (now : DateTime) (jitter : ℚ) (scan : ScanRun)
    (staleAfter : ℚ) (stale : Worker.staleScan now (now - staleAfter) scan = true)
    (queued : (Worker.recoveredScan settings now jitter scan).status = .queued) :
    gaveUp settings staleAfter now scan = false := by
  simp only [gaveUp, stale, Bool.true_and, Bool.or_eq_false_iff, decide_eq_false_iff_not]
  unfold Worker.recoveredScan at queued
  by_cases cancelled : scan.cancelRequested = true
  · simp [cancelled, ScanRun.cancel, ScanRun.clearLease] at queued
  · refine ⟨by simpa using cancelled, fun exhausted => ?_⟩
    simp [cancelled, ScanRun.retryOrQuarantine, exhausted, ScanRun.clearLease] at queued

end Ready

/-- One step keeps queued scans ready. -/
theorem Step.ready {settings : Settings} {s t : State} {op : Op} (step : Step settings s t op)
    (linked : Linked s) (none : NoneActive s op) (starts : StartsFrom settings s op)
    (one : ∀ o, s.activeScans o ≤ 1) (ready : QueuedReady s) : QueuedReady t := by
  have after (o : Nat) := step.one_active linked none (one o)
  cases step with
  | event move event => exact event.ready move linked starts (one _) (after _) ready
  | claimed move _ =>
    refine move.ready ready nofun ?_
    intro j scan owner target _ _ _ _ _ none
    cases none
  | withdrawn move _ =>
    refine move.ready ready nofun ?_
    intro j scan owner target _ _ _ _ _ none
    cases none
  | @recovered staleAfter now jitter scans jobs reviews =>
    intro i scan job found owned queued
    rw [jobs] at owned
    rw [scans, Worker.recoveredScans, List.getElem?_mapIdx] at found
    obtain ⟨old, there, rfl⟩ := Option.map_eq_some_iff.mp found
    have before : ReadyFor s job := by
      split at queued
      · rename_i stale
        exact starts i old job there owned stale (recovered_status _ _ _ _ _ stale queued)
      · exact ready i old job there owned queued
    refine before.moved (Or.inl ?_)
    unfold State.review
    rw [reviews]
  | requested asked request =>
    cases asked with
    | refused => exact request.ready linked ready (by simp) (by simp)
    | scan normal approved confirmed opened =>
      refine request.ready linked ready (fun o member => ?_) fun entry member _ => ?_
      · obtain rfl : o = _ := by
          split at member
          · exact List.mem_singleton.mp member
          · cases member
        exact respects_of_free linked none _
      · obtain rfl := List.mem_singleton.mp member
        exact ready_queued request opened (starts _ normal)
    | retry found owned opened =>
      refine request.ready linked ready (fun o member => ?_) fun entry member _ => ?_
      · obtain rfl : o = _ := by
          split at member
          · exact List.mem_singleton.mp member
          · cases member
        exact respects_of_free linked (none _ owned) _
      · obtain rfl := List.mem_singleton.mp member
        exact ready_queued request opened (starts _ owned)
    | promote free confirmed opened =>
      refine request.ready linked ready (fun o member => ?_) fun entry member _ => ?_
      · obtain rfl := List.mem_singleton.mp member
        exact respects_of_free linked free _
      · obtain rfl := List.mem_singleton.mp member
        exact ready_promoted request opened starts
    | transition o target role current complete =>
      refine request.ready linked ready (fun p member => ?_) (by simp)
      obtain rfl := List.mem_singleton.mp member
      exact starts
    | createBatch profile mode budget templateFits plans =>
      refine request.ready linked ready (fun o member => ?_) (by simp)
      split at member
      · rename_i testing
        obtain ⟨entry, there, rfl⟩ := List.mem_map.mp member
        exact starts testing entry there
      · cases member
    | confirmBatch found =>
      refine request.ready linked ready (fun o member => ?_) (by simp)
      split at member
      · rename_i full
        obtain ⟨item, there, rfl⟩ := List.mem_map.mp member
        exact starts _ found full item there
      · cases member
    | queueBatch found approved free =>
      refine request.ready linked ready (by simp) fun entry member _ => ?_
      have before := starts _ found entry member
      obtain ⟨state, there, -⟩ := id before
      refine before.moved (Or.inl ((request.kept _ List.not_mem_nil).resolve_right ?_))
      rintro ⟨missing, -⟩
      rw [there] at missing
      cases missing
    | startManual o mode profile now =>
      refine request.ready linked ready (fun p member => ?_) fun entry member queued => ?_
      · obtain rfl := List.mem_singleton.mp member
        exact respects_of_free linked none _
      · obtain rfl := List.mem_singleton.mp member
        cases queued

/-! ## The transitions -/

theorem transitionSystem_legal {current target : OpportunityState} {reason : String}
    (legal : current = target ∨ target ∈ current.allowed)
    (short : 5 ≤ reason.length ∧ reason.length ≤ 2000)
    (automatic : target ≠ .approvedForProperty ∧ target ≠ .rejected) :
    transitionSystem current target reason = .ok target := by
  unfold transitionSystem
  by_cases same : current = target
  · rw [if_pos same, same]
  · rw [if_neg same, if_neg (not_not.mpr (legal.resolve_left same)), if_neg (by omega),
      if_neg (by simp [automatic])]

theorem startReason_short (profile : ScanProfile) :
    5 ≤ (Worker.startReason profile).length ∧ (Worker.startReason profile).length ≤ 2000 := by
  cases profile <;> decide

theorem startTarget_cases (job : Job) :
    job.startTarget = .testingRunning ∨ job.startTarget = .fullRunning := by
  unfold Job.startTarget Worker.startTarget
  cases job.preliminary
  · exact Or.inr rfl
  · exact Or.inl rfl

/-- Where a scan can start, it can be cancelled. -/
theorem startable_cancellable {job : Job} {review : OpportunityState}
    (starts : job.startable review = true) :
    review = .needsMoreEvidence ∨ .needsMoreEvidence ∈ review.allowed := by
  unfold Job.startable at starts
  rcases startTarget_cases job with target | target <;> rw [target] at starts <;>
    cases review <;> revert starts <;> decide

/-- The text of the cancellation fits for the ids of a 64-bit key. -/
theorem cancelText_short {i : Nat} (id : i < 2 ^ 63) :
    5 ≤ ("Queued scan " ++ toString i ++ " was cancelled before execution.").length ∧
      ("Queued scan " ++ toString i ++ " was cancelled before execution.").length ≤ 2000 := by
  have digits : (Nat.repr i).length ≤ 19 :=
    (Nat.length_repr_le_iff (by decide)).mpr (id.trans (by decide))
  have text : ("Queued scan " ++ toString i ++ " was cancelled before execution.").length =
      12 + (Nat.repr i).length + 32 := by
    rw [String.length_append, String.length_append]
    rfl
  omega

/-- The scan's start is accepted, and so is its cancellation. -/
def StartsAndCancels (s : State) (i : Nat) (job : Job) : Prop :=
  (∃ review, s.review job.opportunity = some review ∧
    transitionSystem review job.startTarget (Worker.startReason job.scanProfile) =
      .ok job.startTarget) ∧
  ∀ now, ∃ t row, s.apiCancelScan i now = some t ∧ t.worker.scans[i]? = some row ∧
    row.status = .cancelled

theorem apiCancelScan_queued {s : State} {i o : Nat} {scan : ScanRun} {review : OpportunityState}
    (found : s.worker.scans[i]? = some scan) (mine : scan.opportunityId = some o)
    (queued : scan.status = .queued) (there : s.review o = some review)
    (legal : review = .needsMoreEvidence ∨ .needsMoreEvidence ∈ review.allowed) (id : i < 2 ^ 63)
    (now : DateTime) :
    ∃ t row, s.apiCancelScan i now = some t ∧ t.worker.scans[i]? = some row ∧
      row.status = .cancelled := by
  have moved := transitionSystem_legal legal (cancelText_short id) (by decide)
  have status : (Worker.requestedCancel scan now).status = .cancelled :=
    ((requestedCancel_cases scan now).2.resolve_right fun other => other.1 queued).2
  simp only [State.apiCancelScan, found, queued, mine, there, moved]
  exact ⟨_, _, rfl, List.getElem?_set_self (List.getElem?_eq_some_iff.mp found).1, status⟩

/-- In every run that activates scans one at a time and queues them, and moves
their reviews, where they can start, every queued scan starts and cancels. -/
theorem queued_scans_start_and_cancel (settings : Settings) (n : Nat) {s : State}
    (run : Runs.Reaches (fun s op => Called s op ∧ NoneActive s op ∧ StartsFrom settings s op)
      (takes settings) (.initial n) s) (ids : s.worker.scans.length ≤ 2 ^ 63) {i : Nat}
    {scan : ScanRun} {job : Job} (found : s.worker.scans[i]? = some scan)
    (owned : s.jobs[i]? = some job) (queued : scan.status = .queued) : StartsAndCancels s i job := by
  have start : (∀ o, (State.initial n).activeScans o ≤ 1) ∧ QueuedReady (.initial n) :=
    ⟨fun o => by simp [State.activeScans, State.initial], fun i scan job found => by
      simp [State.initial] at found⟩
  obtain ⟨linked, -, ready⟩ :=
    reaches_invariant (I := fun s => (∀ o, s.activeScans o ≤ 1) ∧ QueuedReady s)
      (fun _ _ ok => ok.1) (fun s op t linked holds ok step =>
        ⟨fun o => step.one_active linked ok.2.1 (holds.1 o),
          step.ready linked ok.2.1 ok.2.2 holds.1 holds.2⟩) run start
  obtain ⟨review, there, starts⟩ := ready i scan job found owned queued
  refine ⟨⟨review, there, ?_⟩, fun now => ?_⟩
  · refine transitionSystem_legal ?_ (startReason_short job.scanProfile) ?_
    · simpa [Job.startable] using starts
    · rcases startTarget_cases job with target | target <;> rw [target] <;> decide
  · exact apiCancelScan_queued found (linked.rows i scan job found owned) queued there
      (startable_cancellable starts)
      (Nat.lt_of_lt_of_le (List.getElem?_eq_some_iff.mp found).1 ids) now

theorem testing_request_starts_and_cancels :
    StartsAndCancels ((State.initial 0).apply Settings.live (testingRequest 0)) 0
      ⟨0, .live, .testing, none⟩ := by
  have allowed : Runs.Allowed (fun s op => Called s op ∧ NoneActive s op ∧
      StartsFrom Settings.live s op) (State.apply Settings.live) (.initial 0)
      [testingRequest 0] := by
    refine ⟨⟨trivial, ?_, fun scanned normal => ?_⟩, trivial⟩
    · simp only [NoneActive, testingRequest]
      decide +kernel
    · have testing : scanProfile "testing" = some .testing := by decide +kernel
      obtain rfl : scanned = .testing := (Option.some.inj (testing.symm.trans normal)).symm
      rfl
  have found : ((State.initial 0).apply Settings.live (testingRequest 0)).worker.scans[0]? =
      some (ScanRun.enqueue 0 .manualAsync 0 4) := by decide +kernel
  have owned : ((State.initial 0).apply Settings.live (testingRequest 0)).jobs[0]? =
      some ⟨0, .live, .testing, none⟩ := by decide +kernel
  exact queued_scans_start_and_cancel Settings.live 0 allowed.reaches (by decide +kernel) found owned rfl

/-- A testing scan of fixture data waits in `testing_planned` and starts as
`full_running`, which is refused. -/
theorem fixture_testing_never_starts :
    ¬ ∀ (n : Nat) (s : State), Runs.Reaches Called (takes Settings.live) (.initial n) s →
      s.worker.scans.length ≤ 2 ^ 63 → ∀ (i : Nat) (scan : ScanRun) (job : Job),
      s.worker.scans[i]? = some scan → s.jobs[i]? = some job → scan.status = .queued →
      StartsAndCancels s i job := by
  intro starts
  have allowed : Runs.Allowed Called (State.apply Settings.live) (.initial 0)
      [.scan 0 .fixture "testing" ⟨false, 0⟩ false] := ⟨trivial, trivial⟩
  obtain ⟨⟨review, there, accepted⟩, -⟩ := starts 0 _ allowed.reaches (by decide +kernel) 0
    (.enqueue 0 .manualAsync 0 4) ⟨0, .fixture, .testing, none⟩ (by decide +kernel)
    (by decide +kernel) rfl
  have planned : State.review (([.scan 0 .fixture "testing" ⟨false, 0⟩ false] : List Op).foldl
      (State.apply Settings.live) (.initial 0)) 0 = some .testingPlanned := by decide +kernel
  obtain rfl : OpportunityState.testingPlanned = review := Option.some.inj (planned.symm.trans there)
  revert accepted
  decide +kernel

end RankRent.Api
