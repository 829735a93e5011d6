import RankRent.Api.Active

/-!
# Approval of live full scans

`api_scan` asks for `full_scan_approved` and `confirm_live_cost`, promotion and
`confirm_batch` move the review there. `api_retry_scan` asks for neither,
`queue_batch` relies on what `confirm_batch` left, and `api_scan` compares the
profile before `_scan_profile` normalises it.
-/

namespace RankRent.Api

/-- The request carried an explicit confirmation of the cost, if there is one. -/
def CostConfirmed (s : State) : Op → Prop
  | .scan _ _ _ plan confirm | .promote _ _ plan confirm .. =>
    0 < plan.uncachedCost → confirm = true
  | .retry _ plan => ¬ 0 < plan.uncachedCost
  | .queueBatch b => ∀ batch ∈ s.batches[b]?, batch.approvedMaxCost.isSome = true
  | _ => True

/-- Every live full scan the step adds to the queue is approved and its cost
confirmed. -/
def Approved (settings : Settings) (s : State) (op : Op) : Prop :=
  ∀ (i : Nat) (row : ScanRun) (job : Job), s.worker.scans.length ≤ i →
    (s.apply settings op).worker.scans[i]? = some row →
    (s.apply settings op).jobs[i]? = some job → row.status = .queued → job.dataMode = .live →
    job.scanProfile = .full →
    (s.apply settings op).review job.opportunity = some .fullScanApproved ∧ CostConfirmed s op

/-- The checks the endpoints leave out, for live full scans. -/
def ReviewApproved (s : State) : Op → Prop
  | .scan o mode profile .. => mode = .live → scanProfile profile = some .full →
      profile = "full" ∨ s.review (s.resolve o).1 = some .fullScanApproved
  | .retry i plan => ∀ job ∈ s.jobs[i]?, job.dataMode = .live → job.scanProfile = .full →
      s.review (s.resolve job.opportunity).1 = some .fullScanApproved ∧ ¬ 0 < plan.uncachedCost
  | .promote o target .. => (s.resolve target).1 = o ∨
      s.review (s.resolve target).1 = some .fullScanApproved
  | .queueBatch b => ∀ batch ∈ s.batches[b]?, batch.dataMode = .live → batch.scanProfile = .full →
      ∀ item ∈ batch.items, s.review item.opportunity = some .fullScanApproved
  | _ => True

section Approval
variable {settings : Settings} {s t : State}

/-- A new opportunity is not approved. -/
theorem approved_before {o p : Nat}
    (approved : (s.resolve o).2.review p = some .fullScanApproved) :
    s.review p = some .fullScanApproved := by
  rcases (request_resolve s o .discovered).kept p List.not_mem_nil with same | ⟨-, created⟩
  · rw [← same, approved]
  · rw [created] at approved
    cases approved

theorem Request.approved {rows : List (ScanRun × Job)} {touched : List Nat}
    {target : OpportunityState} (request : Request s t rows touched target) {o : Nat}
    (untouched : o ∉ touched) (approved : s.review o = some .fullScanApproved) :
    t.review o = some .fullScanApproved := by
  rcases request.kept o untouched with same | ⟨missing, -⟩
  · rw [same, approved]
  · rw [approved] at missing
    cases missing

/-- What a request finds for each live full scan it queues. -/
theorem Requested.approved {op : Op} {rows : List (ScanRun × Job)} {touched : List Nat}
    {target : OpportunityState} (asked : Requested settings s t op rows touched target)
    (request : Request s t rows touched target) (reviewed : ReviewApproved s op)
    {entry : ScanRun × Job} (member : entry ∈ rows) (queued : entry.1.status = .queued)
    (live : entry.2.dataMode = .live) (full : entry.2.scanProfile = .full) :
    t.review entry.2.opportunity = some .fullScanApproved ∧ CostConfirmed s op := by
  cases asked with
  | refused | transition | createBatch | confirmBatch => simp at member
  | scan normal approved confirmed opened =>
    obtain rfl := List.mem_singleton.mp member
    simp only at live full
    subst full
    refine ⟨request.approved (by simp) ?_, confirmed live⟩
    rcases reviewed live normal with raw | there
    · exact approved_before (approved live raw)
    · exact there
  | retry found owned opened =>
    obtain rfl := List.mem_singleton.mp member
    simp only at live full
    obtain ⟨there, free⟩ := reviewed _ owned live full
    exact ⟨request.approved (by simp [full]) there, free⟩
  | @promote o goal _ _ _ _ _ free confirmed opened =>
    obtain rfl := List.mem_singleton.mp member
    refine ⟨?_, confirmed⟩
    by_cases same : (s.resolve goal).1 = o
    · exact request.moved _ (List.mem_singleton.mpr same)
    · exact request.approved (by simpa using same) (reviewed.resolve_left same)
  | @queueBatch b batch found approved free =>
    obtain ⟨item, there, rfl⟩ := List.mem_map.mp member
    refine ⟨request.approved List.not_mem_nil (reviewed batch found live full item there), ?_⟩
    intro other same
    rw [found] at same
    cases same
    exact approved
  | startManual o mode profile now =>
    obtain rfl := List.mem_singleton.mp member
    cases queued

/-- One step of a run. -/
theorem approved_step (linked : Linked s) {op : Op} (called : Called s op)
    (reviewed : ReviewApproved s op) : Approved settings s op := by
  intro i row job new found owned queued live full
  obtain ⟨step, -⟩ := apply_step settings linked called
  -- Only a request adds a row.
  have none (length : (s.apply settings op).worker.scans.length = s.worker.scans.length) : False := by
    have bound := (List.getElem?_eq_some_iff.mp found).1
    omega
  cases step with
  | event move _ | claimed move _ | withdrawn move _ =>
    exact (none (by rw [move.scans, List.length_set])).elim
  | recovered scans _ _ =>
    exact (none (by rw [scans, Worker.recoveredScans, List.length_mapIdx])).elim
  | requested asked request =>
    rw [request.scans, List.getElem?_append_right new, List.getElem?_map] at found
    rw [request.jobs, List.getElem?_append_right (by rw [linked.length]; exact new), linked.length,
      List.getElem?_map] at owned
    obtain ⟨entry, there, rfl⟩ := Option.map_eq_some_iff.mp found
    rw [there] at owned
    cases owned
    exact asked.approved request reviewed (List.mem_of_getElem? there) queued live full

end Approval

/-- In every run whose requests for live full scans find the review approved,
every such scan is queued approved and with its cost confirmed. -/
theorem paid_full_scans_approved (settings : Settings) (n : Nat) {ops : List Op}
    (run : Runs.Allowed (fun s op => Called s op ∧ ReviewApproved s op) (State.apply settings)
      (.initial n) ops) :
    Runs.Allowed (Approved settings) (State.apply settings) (.initial n) ops := by
  refine run.imp (I := Linked) (fun s op linked ok => ?_) (linked_initial n)
  exact ⟨approved_step linked ok.1 ok.2, (apply_step settings linked ok.1).2⟩

/-- An opportunity is reviewed and approved, and a live full scan of it queued. -/
def approvedScan : List Op :=
  [.transition 0 .preliminaryReview .reviewer true true,
    .transition 0 .fullScanApproved .reviewer true true,
    .scan 0 .live "full" ⟨false, 8 / 100⟩ true]

theorem approved_scan_approved :
    (approvedScan.foldl (State.apply Settings.live) (.initial 1)).activeScans 0 = 1 ∧
      Runs.Allowed (Approved Settings.live) (State.apply Settings.live) (.initial 1)
        approvedScan := by
  refine ⟨by decide +kernel, paid_full_scans_approved Settings.live 1 ?_⟩
  exact ⟨⟨trivial, trivial⟩, ⟨trivial, trivial⟩, ⟨trivial, fun _ _ => Or.inl rfl⟩, trivial⟩

/-- The scan is cancelled before it runs and retried: nobody approved it again,
or confirmed what it costs. -/
theorem retry_queued_unapproved :
    ¬ ∀ (n : Nat) (ops : List Op),
      Runs.Allowed Called (State.apply Settings.live) (.initial n) ops →
        Runs.Allowed (Approved Settings.live) (State.apply Settings.live) (.initial n) ops := by
  intro approved
  have called : Runs.Allowed Called (State.apply Settings.live) (.initial 1)
      (approvedScan ++ [.cancel 0 5, .retry 0 ⟨false, 8 / 100⟩]) :=
    ⟨trivial, trivial, trivial, trivial, trivial, trivial⟩
  have steps := approved 1 _ called
  obtain ⟨-, -, -, -, retried, -⟩ := steps
  have confirmed := (retried 1 (.enqueue 0 .manualAsync 1 4) ⟨0, .live, .full, some 0⟩
    (by decide +kernel) (by decide +kernel) (by decide +kernel) rfl rfl rfl).2
  exact confirmed (by decide +kernel)

end RankRent.Api
