import RankRent.Provider.PlanFit
import RankRent.Review.Completeness

/-!
# The ledger check of an executed plan

When `cost_ledger_complete` of the approval gate passes for a scan whose
required calls were all made. `build_scan_plan` marks the backlink calls as not
required; `build_api_cost_ledger` reports the flag and does not use it.
-/

namespace RankRent.Review

open Provider

/-- A row of `scan_plan_calls` with its flag. -/
structure PlanRow extends ScanPlanCall where
  required : Bool
  deriving DecidableEq

/-- The rows of `build_scan_plan`. -/
def planRows (scan : Nat) (provider : String) (profile : ScanProfile) (free : Bool)
    (keys : PlanKeys) : List PlanRow :=
  (buildScanPlan scan provider profile free keys).map fun call =>
    { call with required := call.endpoint ≠ backlinksEndpoint }

/-- The optional calls of a full scan are its five backlink calls. -/
theorem planRows_optional (scan : Nat) (provider : String) (free : Bool) (keys : PlanKeys) :
    (planRows scan provider .full free keys).countP (fun call => !call.required) = 5 := by
  have backlinks : (slots (buildScanPlan scan provider .full free keys) scan provider
      backlinksEndpoint).length = 5 := full_slots.2.2
  rw [planRows, List.countP_map, List.countP_eq_length_filter, ← backlinks, slots, matching]
  refine congrArg List.length (List.filter_congr fun call member => ?_)
  obtain ⟨mine, ours, -⟩ := buildScanPlan_known member
  simp [mine, ours]

/-- The rows of a scan for a planned call. -/
def callsOf (calls : List ApiCall) (scan : Nat) (call : PlanRow) : List ApiCall :=
  calls.filter fun row => standsFor row scan call.plannedRequestId

/-- Every required call was made once and was answered; no call was unplanned. -/
structure FullyExecuted (plan : List PlanRow) (calls : List ApiCall) (scan : Nat) : Prop where
  required : ∀ call ∈ plan, call.scanRunId = scan → call.required = true →
    (callsOf calls scan call).map ApiCall.status = [.completed] ∨
      (callsOf calls scan call).map ApiCall.status = [.cacheHit]
  planned : ∀ row ∈ calls, row.scanRunId = some scan →
    ∃ call ∈ plan, call.scanRunId = scan ∧ row.plannedRequestId = some call.plannedRequestId

/-- `terminal_statuses`. -/
def terminal (row : ApiCall) : Bool :=
  row.status = .cacheHit || row.status = .completed || row.status = .failed

/-- Every optional call was made too, and ended. -/
def OptionalCallsMade (plan : List PlanRow) (calls : List ApiCall) (scan : Nat) : Prop :=
  ∀ call ∈ plan, call.scanRunId = scan → call.required = false →
    callsOf calls scan call ≠ [] ∧ ∀ row ∈ callsOf calls scan call, terminal row = true

section Executed
variable {plan : List PlanRow} {calls : List ApiCall} {scan : Nat}

theorem mem_callsOf {call : PlanRow} {row : ApiCall} :
    row ∈ callsOf calls scan call ↔ row ∈ calls ∧ row.scanRunId = some scan ∧
      row.plannedRequestId = some call.plannedRequestId := by
  rw [callsOf, List.mem_filter, standsFor_iff]

/-- The calls of a required call are there and ended. -/
theorem FullyExecuted.answered (executed : FullyExecuted plan calls scan) {call : PlanRow}
    (member : call ∈ plan) (mine : call.scanRunId = scan) (required : call.required = true) :
    callsOf calls scan call ≠ [] ∧ ∀ row ∈ callsOf calls scan call, terminal row = true := by
  have once : ∃ status, (callsOf calls scan call).map ApiCall.status = [status] ∧
      (status = .completed ∨ status = .cacheHit) := by
    rcases executed.required call member mine required with completed | cached
    · exact ⟨_, completed, .inl rfl⟩
    · exact ⟨_, cached, .inr rfl⟩
  obtain ⟨status, statuses, answered⟩ := once
  constructor
  · intro none
    simp [none] at statuses
  · intro row there
    have listed : row.status ∈ (callsOf calls scan call).map ApiCall.status :=
      List.mem_map_of_mem there
    rw [statuses, List.mem_singleton] at listed
    rcases answered with completed | cached
    · simp [terminal, listed, completed]
    · simp [terminal, listed, cached]

theorem callsOf_ne_nil {call : PlanRow} :
    callsOf calls scan call ≠ [] ↔ ∃ row ∈ calls, row.scanRunId = some scan ∧
      row.plannedRequestId = some call.plannedRequestId := by
  constructor
  · intro some
    obtain ⟨row, there⟩ := List.exists_mem_of_ne_nil _ some
    exact ⟨row, mem_callsOf.mp there⟩
  · rintro ⟨row, there⟩
    exact List.ne_nil_of_mem (mem_callsOf.mpr there)

/-- Without unplanned calls a ledger is complete when every planned call has
rows and they ended. -/
theorem ledgerComplete_iff (planned : ∀ row ∈ calls, row.scanRunId = some scan →
      ∃ call ∈ plan, call.scanRunId = scan ∧ row.plannedRequestId = some call.plannedRequestId) :
    (buildApiCostLedger (plan.map PlanRow.toScanPlanCall) calls (some scan)).ledgerComplete = true ↔
      ∀ call ∈ plan, call.scanRunId = scan →
        callsOf calls scan call ≠ [] ∧ ∀ row ∈ callsOf calls scan call, terminal row = true := by
  simp only [buildApiCostLedger, Bool.and_eq_true, List.isEmpty_iff, List.all_eq_true]
  constructor
  · rintro ⟨⟨unexecuted, -⟩, ended⟩ call member mine
    constructor
    · have executed := List.filter_eq_nil_iff.mp unexecuted call.toScanPlanCall
        (List.mem_filter.mpr ⟨List.mem_map_of_mem member, decide_eq_true mine⟩)
      rw [callsOf_ne_nil]
      simpa [and_assoc] using executed
    · intro row there
      obtain ⟨inCalls, ours, -⟩ := mem_callsOf.mp there
      exact ended row (List.mem_filter.mpr ⟨inCalls, decide_eq_true ours⟩)
  · intro all
    refine ⟨⟨?_, ?_⟩, ?_⟩
    · refine List.filter_eq_nil_iff.mpr fun call member => ?_
      obtain ⟨inPlan, mine⟩ := List.mem_filter.mp member
      obtain ⟨row, there, rfl⟩ := List.mem_map.mp inPlan
      have executed := callsOf_ne_nil.mp (all row there (of_decide_eq_true mine)).1
      simpa [and_assoc] using executed
    · split
      · rfl
      · refine List.filter_eq_nil_iff.mpr fun row member => ?_
        obtain ⟨inCalls, ours⟩ := List.mem_filter.mp member
        obtain ⟨call, there, mine, id⟩ := planned row inCalls (of_decide_eq_true ours)
        have listed : call.plannedRequestId ∈
            (((plan.map PlanRow.toScanPlanCall).filter fun call => call.scanRunId = scan).map
              ScanPlanCall.plannedRequestId) :=
          List.mem_map.mpr ⟨call.toScanPlanCall,
            List.mem_filter.mpr ⟨List.mem_map_of_mem there, decide_eq_true mine⟩, rfl⟩
        simp only [id]
        simpa [and_assoc] using listed
    · intro row member
      obtain ⟨inCalls, ours⟩ := List.mem_filter.mp member
      obtain ⟨call, there, mine, id⟩ := planned row inCalls (of_decide_eq_true ours)
      exact (all call there mine).2 row (mem_callsOf.mpr ⟨inCalls, of_decide_eq_true ours, id⟩)

/-- The check of the approval gate is the ledger of the newest completed full scan. -/
theorem ledger_check {e : ReviewEvidence} {opportunity : Opportunity} {o : Nat} {now : DateTime}
    {maximumAgeDays : Nat} {found : EvidenceScan} (newest : e.fullScan o = some found) :
    ("cost_ledger_complete", true) ∈
        (approvalCompleteness e opportunity o now maximumAgeDays).checks ↔
      (buildApiCostLedger e.plan e.calls (some found.id)).ledgerComplete = true := by
  simp [approvalCompleteness, approvalChecks, newest]

/-- For a scan whose required calls were all made and answered, without an
unplanned call, the check passes exactly when its optional calls were made too. -/
theorem executed_plan_approvable_iff (e : ReviewEvidence) (opportunity : Opportunity) (o : Nat)
    (now : DateTime) (maximumAgeDays : Nat) (found : EvidenceScan) (plan : List PlanRow)
    (newest : e.fullScan o = some found) (stored : e.plan = plan.map PlanRow.toScanPlanCall)
    (executed : FullyExecuted plan e.calls found.id) :
    ((buildApiCostLedger e.plan e.calls (some found.id)).ledgerComplete = true ↔
        OptionalCallsMade plan e.calls found.id) ∧
      (("cost_ledger_complete", true) ∈
          (approvalCompleteness e opportunity o now maximumAgeDays).checks ↔
        OptionalCallsMade plan e.calls found.id) := by
  have complete : (buildApiCostLedger e.plan e.calls (some found.id)).ledgerComplete = true ↔
      OptionalCallsMade plan e.calls found.id := by
    rw [stored, ledgerComplete_iff executed.planned]
    constructor
    · intro all call member mine _
      exact all call member mine
    · intro optional call member mine
      cases required : call.required with
      | true => exact executed.answered member mine required
      | false => exact optional call member mine required
  exact ⟨complete, (ledger_check newest).trans complete⟩

end Executed

/-! ## A market with one competitor -/

def answeredCall (call : PlanRow) : ApiCall :=
  { call.toScanPlanCall.row ⟨0, call.provider, call.endpoint, call.cacheKey⟩
      ⟨false, false, "a0", none, none, 0⟩ with
    status := .completed }

def fullPlan : List PlanRow := planRows 0 "sandbox" .full true sampleKeys

/-- Every required call, and the first so many of the optional ones. -/
def callsWith (competitors : Nat) : List ApiCall :=
  (fullPlan.filter (fun call => call.required) ++
    (fullPlan.filter fun call => !call.required).take competitors).map answeredCall

def evidenceWith (competitors : Nat) : ReviewEvidence where
  missingDataFlags := []
  scans := [⟨0, some 0, .full, .completed, some 0, some "pass"⟩]
  scores := []
  keywordDecisions := [0]
  serpSnapshots := [0]
  competitorMetrics := [0]
  providerCandidates := [0]
  plan := fullPlan.map PlanRow.toScanPlanCall
  calls := callsWith competitors

def ownedOpportunity : Opportunity := ⟨.fullReview, some "owner", 1, none⟩

instance (plan : List PlanRow) (calls : List ApiCall) (scan : Nat) :
    Decidable (FullyExecuted plan calls scan) :=
  decidable_of_iff
    ((∀ call ∈ plan, call.scanRunId = scan → call.required = true →
        (callsOf calls scan call).map ApiCall.status = [.completed] ∨
          (callsOf calls scan call).map ApiCall.status = [.cacheHit]) ∧
      ∀ row ∈ calls, row.scanRunId = some scan →
        ∃ call ∈ plan, call.scanRunId = scan ∧ row.plannedRequestId = some call.plannedRequestId)
    ⟨fun both => ⟨both.1, both.2⟩, fun executed => ⟨executed.required, executed.planned⟩⟩

instance (plan : List PlanRow) (calls : List ApiCall) (scan : Nat) :
    Decidable (OptionalCallsMade plan calls scan) :=
  inferInstanceAs (Decidable (∀ call ∈ plan, call.scanRunId = scan → call.required = false →
    callsOf calls scan call ≠ [] ∧ ∀ row ∈ callsOf calls scan call, terminal row = true))

theorem executed_plan_approvable_five :
    (buildApiCostLedger (evidenceWith 5).plan (evidenceWith 5).calls (some 0)).ledgerComplete =
        true ∧
      ("cost_ledger_complete", true) ∈
        (approvalCompleteness (evidenceWith 5) ownedOpportunity 0 0).checks := by
  have made : OptionalCallsMade fullPlan (callsWith 5) 0 := by decide +kernel
  have both := executed_plan_approvable_iff (evidenceWith 5) ownedOpportunity 0 0 90
    ⟨0, some 0, .full, .completed, some 0, some "pass"⟩ fullPlan (by decide +kernel) rfl
    (by decide +kernel)
  exact ⟨both.1.mpr made, both.2.mpr made⟩

/-- One competitor domain: four backlink calls are planned and never made. -/
theorem executed_plan_not_approvable :
    ¬ ∀ (e : ReviewEvidence) (opportunity : Opportunity) (o : Nat) (now : DateTime)
        (maximumAgeDays : Nat) (found : EvidenceScan) (plan : List PlanRow),
      e.fullScan o = some found → e.plan = plan.map PlanRow.toScanPlanCall →
      FullyExecuted plan e.calls found.id →
      (buildApiCostLedger e.plan e.calls (some found.id)).ledgerComplete = true ∧
        ("cost_ledger_complete", true) ∈
          (approvalCompleteness e opportunity o now maximumAgeDays).checks := by
  intro all
  have complete := all (evidenceWith 1) ownedOpportunity 0 0 90
    ⟨0, some 0, .full, .completed, some 0, some "pass"⟩ fullPlan (by decide +kernel) rfl
    (by decide +kernel)
  have incomplete : (buildApiCostLedger (evidenceWith 1).plan (evidenceWith 1).calls
      (some 0)).ledgerComplete = false := by decide +kernel
  exact absurd (incomplete.symm.trans complete.1) (by decide)

end RankRent.Review
