import RankRent.CostControls.Operations
import RankRent.Provider.Slots
import RankRent.Review.Decisions

/-!
# Approval gate

`approval_completeness` of `opportunity_review/services.py`, over the rows it reads.
Tables are in id order.
-/

namespace RankRent.Review

/-- What the gate reads of a row of `scan_runs`. -/
structure EvidenceScan where
  id : Nat
  opportunityId : Option Nat
  scanProfile : ScanProfile
  status : ScanStatus
  completedAt : Option DateTime
  /-- `status` of `evidence_quality` in `partial_outputs`. -/
  qualityStatus : Option String
  deriving DecidableEq

/-- What the gate reads of a row of `full_opportunity_scores`. -/
structure FullScore where
  id : Nat
  opportunityId : Nat
  scanRunId : Nat
  createdAt : DateTime
  /-- `evidence_status` of the payload. -/
  evidenceStatus : Option String
  deriving DecidableEq

/-- The tables behind the gate; of an evidence table only the scan of each row counts. -/
structure ReviewEvidence where
  missingDataFlags : List String
  scans : List EvidenceScan
  scores : List FullScore
  keywordDecisions : List Nat
  serpSnapshots : List Nat
  competitorMetrics : List Nat
  providerCandidates : List Nat
  plan : List Provider.ScanPlanCall
  calls : List ApiCall

structure ApprovalCompleteness where
  complete : Bool
  fullScanRunId : Option Nat
  fullScoreId : Option Nat
  checks : List (String × Bool)
  failures : List String
  warnings : List String
  deriving DecidableEq

/-- `completed_at DESC`, a missing time last. -/
def EvidenceScan.notAfter (scan other : EvidenceScan) : Bool :=
  match scan.completedAt, other.completedAt with
  | none, _ => true
  | some _, none => false
  | some at_, some later => at_ ≤ later

/-- The newest completed full scan of the opportunity. -/
def ReviewEvidence.fullScan (e : ReviewEvidence) (opportunityId : Nat) : Option EvidenceScan :=
  let rows := e.scans.filter fun scan =>
    scan.opportunityId = some opportunityId ∧ scan.scanProfile = .full ∧ scan.status = .completed
  rows.foldl (fun best scan => match best with
    | none => some scan
    | some b => if b.notAfter scan then some scan else some b) none

def ReviewEvidence.fullScore (e : ReviewEvidence) (opportunityId scanId : Nat) : Option FullScore :=
  CostControls.latestBy FullScore.createdAt (e.scores.filter fun score =>
    score.opportunityId = opportunityId ∧ score.scanRunId = scanId)

/-- Each check with the label of its failure, in the order of `checks`. -/
def approvalChecks (e : ReviewEvidence) (opportunity : Opportunity) (opportunityId : Nat)
    (now : DateTime) (maximumAgeDays : Nat) : List (String × String × Bool) :=
  let scan := e.fullScan opportunityId
  let score := scan.bind fun scan => e.fullScore opportunityId scan.id
  let quality := scan.bind EvidenceScan.qualityStatus
  let present (rows : List Nat) : Bool := match scan with
    | none => false
    | some scan => scan.id ∈ rows
  let ledger : Bool := match scan with
    | none => false
    | some scan => (Provider.buildApiCostLedger e.plan e.calls (some scan.id)).ledgerComplete
  let fresh : Bool := match scan.bind EvidenceScan.completedAt with
    | none => false
    | some completed => now - maximumAgeDays * 86400 ≤ completed
  [("owner_assigned", "Assign an opportunity owner.",
     opportunity.ownerUserId.isSome && opportunity.ownerUserId ≠ some ""),
   ("completed_full_scan", "A completed full scan is required.", scan.isSome),
   ("full_score_matches_scan", "The completed full scan needs a matching full score.", score.isSome),
   ("full_score_is_complete", "The full score is partial or unusable.",
     score.map (fun score => score.evidenceStatus.getD "complete") = some "complete"),
   ("evidence_quality_passes", "Evidence quality must pass or contain warnings only.",
     quality = some "pass" || quality = some "warning"),
   ("keyword_decisions_present", "Keyword decisions are missing.", present e.keywordDecisions),
   ("serp_snapshots_present", "SERP evidence is missing.", present e.serpSnapshots),
   ("competitor_metrics_present", "Competitor evidence is missing.", present e.competitorMetrics),
   ("provider_candidates_present", "Provider evidence is missing.", present e.providerCandidates),
   ("cost_ledger_complete", "The API cost ledger is incomplete.", ledger),
   ("evidence_is_fresh", s!"Full evidence must be no more than {maximumAgeDays} days old.", fresh)]

/-- `approval_completeness`. -/
def approvalCompleteness (e : ReviewEvidence) (opportunity : Opportunity) (opportunityId : Nat)
    (now : DateTime) (maximumAgeDays : Nat := 90) : ApprovalCompleteness :=
  let checks := approvalChecks e opportunity opportunityId now maximumAgeDays
  let scan := e.fullScan opportunityId
  let failures := checks.filterMap fun (_, label, passed) => if passed then none else some label
  let flags := e.missingDataFlags.mergeSort fun a b => decide (a ≤ b)
  { complete := failures.isEmpty
    fullScanRunId := scan.map EvidenceScan.id
    fullScoreId := (scan.bind fun scan => e.fullScore opportunityId scan.id).map FullScore.id
    checks := checks.map fun (key, _, passed) => (key, passed)
    failures := failures
    warnings :=
      (if flags.isEmpty then [] else ["Score reports missing data: " ++ ", ".intercalate flags]) ++
      (if scan.bind EvidenceScan.qualityStatus = some "warning"
        then ["Evidence quality passed with warnings."] else []) }

/-- The gate is complete exactly when every check passes. -/
theorem approvalCompleteness_complete_iff (e : ReviewEvidence) (opportunity : Opportunity)
    (opportunityId : Nat) (now : DateTime) (maximumAgeDays : Nat) :
    (approvalCompleteness e opportunity opportunityId now maximumAgeDays).complete = true ↔
      ∀ check ∈ (approvalCompleteness e opportunity opportunityId now maximumAgeDays).checks,
        check.2 = true := by
  simp only [approvalCompleteness, List.isEmpty_iff, List.filterMap_eq_nil_iff, List.mem_map]
  constructor
  · rintro none _ ⟨⟨key, label, passed⟩, member, rfl⟩
    simpa using none _ member
  · intro all check member
    have passed := all (check.1, check.2.2) ⟨check, member, rfl⟩
    simp only at passed
    simp [passed]

end RankRent.Review
