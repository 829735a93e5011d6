import RankRent.Api.System
import RankRent.Library.PyJson
import RankRent.Pipeline.Completion
import RankRent.Provider.Slots

/-!
# Rescoring stored evidence

`api_opportunity_rescore` of `main.py`: which evidence artifact and which scan
row it reads, and where its results go. The validators and the scorer are given
(`Scoring`); tables are in id order.
-/

namespace RankRent.Review

open Api (DataMode)

abbrev Dict := List (String × PyJson)

/-! ## Rows -/

/-- The scan columns rescoring reads. -/
structure ScannedRow where
  opportunityId : Option Nat
  status : ScanStatus
  dataMode : DataMode
  scanProfile : ScanProfile
  plannedCost : Usd
  completedAt : Option DateTime
  requestParameters : Dict
  integrationVersions : Dict

inductive StoredKind
  | saved (kind : Pipeline.ArtifactKind)
  | rescoreResult
  deriving DecidableEq

/-- `kind.in_(["scan_result", "preliminary_assessment"])`. -/
def StoredKind.evidence : StoredKind → Bool
  | .saved .scanResult | .saved .preliminaryAssessment => true
  | _ => false

/-- A row of `json_artifacts`. -/
structure JsonArtifact where
  opportunityId : Option Nat
  scanRunId : Option Nat
  kind : StoredKind
  payload : Dict

inductive AssessmentType
  | preliminary | full
  deriving DecidableEq

def AssessmentType.value : AssessmentType → String
  | .preliminary => "preliminary"
  | .full => "full"

/-- What the caller reads of an `OpportunityScore`. -/
structure OpportunityScore where
  scoringVersion : String
  totalScore : ℚ
  confidence : String
  missingFields : List String
  evidenceStatus : String
  componentScores : List (String × ℚ)

/-- A row of `preliminary_assessments` or `full_opportunity_scores`. -/
structure ScoreRow where
  scanRunId : Nat
  opportunityId : Nat
  assessmentType : AssessmentType
  score : OpportunityScore
  /-- `source_scan_run_id` of a rescore payload. -/
  sourceScanRunId : Nat

/-- A row of `score_components`. -/
structure ComponentRow where
  scanRunId : Nat
  component : String
  score : ℚ

/-- The opportunity columns rescoring reads and writes. -/
structure ScoredOpportunity where
  status : OpportunityState
  latestScore : Option ℚ
  scoreVersion : String
  confidence : String
  missingDataFlags : List String

structure RescoreStore where
  opportunities : List ScoredOpportunity
  scans : List ScannedRow
  artifacts : List JsonArtifact
  scores : List ScoreRow
  components : List ComponentRow
  plan : List Provider.ScanPlanCall
  calls : List ApiCall

/-! ## Selection -/

/-- `order_by(id.desc()).limit(1)`. -/
def newestRow {α : Type} (fits : α → Bool) (rows : List α) : Option (α × Nat) :=
  (rows.zipIdx.filter fun entry => fits entry.1).getLast?

def RescoreStore.latestScan (s : RescoreStore) (o : Nat) : Option (ScannedRow × Nat) :=
  newestRow (fun scan => scan.opportunityId = some o) s.scans

/-- The artifact behind `_latest_scan_payload`. -/
def RescoreStore.latestEvidence (s : RescoreStore) (o : Nat) : Option (JsonArtifact × Nat) :=
  newestRow (fun artifact => artifact.opportunityId = some o && artifact.kind.evidence) s.artifacts

/-- `isinstance(value, dict)`. -/
def Dict.object (fields : Dict) (key : String) : Option Dict :=
  match fields.lookup key with
  | some (.obj payload) => some payload
  | _ => none

/-- The truth value of a JSON value. -/
def truthy : PyJson → Bool
  | .null => false
  | .bool b => b
  | .num n => n ≠ 0
  | .float repr => repr ≠ "0.0" && repr ≠ "-0.0"
  | .str s => s ≠ ""
  | .arr items => !items.isEmpty
  | .obj fields => !fields.isEmpty

/-- `fields.get(first) or fields.get(second)`. -/
def Dict.either (fields : Dict) (first second : String) : Option PyJson :=
  match fields.lookup first with
  | some value => if truthy value then some value else fields.lookup second
  | none => fields.lookup second

/-- `final_market_payload` or `market_payload`, when it is a dict. -/
def ScannedRow.marketPayload (scan : ScannedRow) : Option Dict :=
  match Dict.either scan.requestParameters "final_market_payload" "market_payload" with
  | some (.obj payload) => some payload
  | _ => none

def ScannedRow.servicePayload (scan : ScannedRow) : Option Dict :=
  Dict.object scan.requestParameters "service_payload"

/-- `_assessment_type_for_payload`. -/
def assessmentTypeForPayload (payload : Dict) (scan : ScannedRow) : AssessmentType :=
  match payload.lookup "assessment_type" with
  | some (.str "preliminary") => .preliminary
  | some (.str "full") => .full
  | _ => if scan.dataMode = .live ∧ scan.scanProfile = .testing then .preliminary else .full

/-- `request.get(key) or integrations.get(key)`. -/
def ScannedRow.setting (scan : ScannedRow) (key : String) : Option PyJson :=
  match scan.requestParameters.lookup key with
  | some value => if truthy value then some value else scan.integrationVersions.lookup key
  | none => scan.integrationVersions.lookup key

/-- `isinstance(value, str) and value`. -/
def nonEmptyText : PyJson → Option String
  | .str s => if s = "" then none else some s
  | _ => none

/-- `_scan_evidence_source_mode`. -/
def scanEvidenceSourceMode (scan : ScannedRow) : String :=
  match (scan.setting "evidence_source_mode").bind nonEmptyText with
  | some explicit => explicit
  | none =>
    match scan.dataMode with
    | .fixture => "fixture"
    | .replay => "replay"
    | .live =>
      match scan.setting "dataforseo_environment" with
      | some (.str "production") => "live"
      | some (.str "sandbox") => "sandbox"
      | _ => "unknown"

/-! ## The request -/

inductive RescoreError
  | http (status : Nat) (detail : String)
  | validation
  | review (error : ReviewError)
  deriving DecidableEq

/-- The validators of the stored payloads, the scorer and the report. -/
structure Scoring (Service Market Evidence : Type) where
  service : Dict → Option Service
  market : Dict → Option Market
  /-- The metrics, SERP snapshots, competitors and providers of an artifact. -/
  evidence : Dict → Option Evidence
  score : Evidence → Market → String → AssessmentType → OpportunityScore
  assess : Service → Evidence → AssessmentType → Dict
  applyToScore : OpportunityScore → Dict → OpportunityScore
  dumpScore : OpportunityScore → Dict

/-- The `scan_metadata` of the report. -/
structure ScanMetadata where
  scanRunId : Nat
  dataMode : DataMode
  evidenceSourceMode : String
  scanProfile : ScanProfile
  plannedCost : Usd
  completedAt : Option DateTime
  apiCostLedger : Provider.ApiCostLedger
  assessmentType : AssessmentType
  evidenceQuality : Dict

/-- What a rescore evaluated, and as the result of which scan. -/
structure Rescored (Service Market Evidence : Type) where
  service : Service
  market : Market
  evidence : Evidence
  metadata : ScanMetadata
  score : OpportunityScore

variable {Service Market Evidence : Type}

/-- `evidence_quality.status == "fail"`. -/
def qualityFails (quality : Dict) : Bool :=
  match quality.lookup "status" with
  | some (.str "fail") => true
  | _ => false

/-- The evaluation of an artifact as evidence of a scan. -/
def evaluate (scoring : Scoring Service Market Evidence) (s : RescoreStore) (payload : Dict)
    (scan : ScannedRow) (scanId : Nat) : Except RescoreError (Rescored Service Market Evidence) :=
  match scan.servicePayload, scan.marketPayload with
  | some servicePayload, some marketPayload =>
    match scoring.service servicePayload, scoring.market marketPayload, scoring.evidence payload with
    | some service, some market, some evidence =>
      let assessmentType := assessmentTypeForPayload payload scan
      let sourceMode := scanEvidenceSourceMode scan
      let quality := scoring.assess service evidence assessmentType
      .ok
        { service := service
          market := market
          evidence := evidence
          metadata :=
            { scanRunId := scanId
              dataMode := scan.dataMode
              evidenceSourceMode := sourceMode
              scanProfile := scan.scanProfile
              plannedCost := scan.plannedCost
              completedAt := scan.completedAt
              apiCostLedger := Provider.buildApiCostLedger s.plan s.calls (some scanId)
              assessmentType := assessmentType
              evidenceQuality := quality }
          score := scoring.applyToScore (scoring.score evidence market sourceMode assessmentType)
            quality }
    | _, _, _ => .error .validation
  | _, _ => .error (.http 400 "Latest scan is missing structured service/market data.")

/-- `_save_rescore_assessment_records`. -/
def saveRescoreAssessmentRecords (s : RescoreStore) (scanId o : Nat)
    (assessmentType : AssessmentType) (score : OpportunityScore) : RescoreStore :=
  { s with
    scores := s.scores ++ [⟨scanId, o, assessmentType, score, scanId⟩]
    components := s.components ++ score.componentScores.map fun component =>
      ⟨scanId, component.1, component.2⟩ }

/-- What rescoring sets on the opportunity, its review state apart. -/
def ScoredOpportunity.rescored (row : ScoredOpportunity) (assessmentType : AssessmentType)
    (score : OpportunityScore) (quality : Dict) : ScoredOpportunity :=
  match assessmentType with
  | .preliminary =>
    if row.latestScore = none then
      { row with
        scoreVersion := score.scoringVersion
        confidence := if qualityFails quality then "insufficient" else "preliminary"
        missingDataFlags := score.missingFields }
    else row
  | .full =>
    if score.evidenceStatus = "complete" then
      { row with
        latestScore := some score.totalScore
        scoreVersion := score.scoringVersion
        confidence := score.confidence
        missingDataFlags := score.missingFields }
    else if row.latestScore = none then
      { row with
        scoreVersion := score.scoringVersion
        confidence := score.confidence
        missingDataFlags := score.missingFields }
    else { row with missingDataFlags := score.missingFields }

/-- `target_review_state`. -/
def targetReviewState (assessmentType : AssessmentType) (score : OpportunityScore)
    (quality : Dict) : OpportunityState :=
  if qualityFails quality ∨ (assessmentType = .full ∧ score.evidenceStatus ≠ "complete") then
    .needsMoreEvidence
  else
    match assessmentType with
    | .preliminary => .preliminaryReview
    | .full => .fullReview

/-- The system transition at the end of a rescore; an approved opportunity is
left unless it now needs evidence. -/
def rescoreTransition (current target : OpportunityState) (reason : String) :
    Except ReviewError OpportunityState :=
  if current ≠ .approvedForProperty ∨ target = .needsMoreEvidence then
    RankRent.transitionSystem current target reason
  else .ok current

/-- The payload of the `rescore_result`, its report and its difference apart. -/
def rescorePayload (scoring : Scoring Service Market Evidence)
    (result : Rescored Service Market Evidence) (reason : String) : Dict :=
  [("assessment_type", .str result.metadata.assessmentType.value),
   ("score", .obj (scoring.dumpScore result.score)),
   ("source_scan_run_id", .num result.metadata.scanRunId),
   ("reason", .str reason),
   ("evidence_quality", .obj result.metadata.evidenceQuality)]

/-- The rows a rescore leaves. -/
def saveRescore (scoring : Scoring Service Market Evidence) (s : RescoreStore) (o : Nat)
    (row : ScoredOpportunity) (result : Rescored Service Market Evidence)
    (status : OpportunityState) (reason : String) : RescoreStore :=
  let scanId := result.metadata.scanRunId
  let assessmentType := result.metadata.assessmentType
  let saved := saveRescoreAssessmentRecords s scanId o assessmentType result.score
  { saved with
    opportunities := s.opportunities.set o
      { row.rescored assessmentType result.score result.metadata.evidenceQuality with
        status := status }
    artifacts := s.artifacts ++
      [⟨some o, some scanId, .rescoreResult, rescorePayload scoring result reason⟩] }

/-- `api_opportunity_rescore`. -/
def apiOpportunityRescore (scoring : Scoring Service Market Evidence) (s : RescoreStore) (o : Nat)
    (reason : String) : Except RescoreError (Rescored Service Market Evidence × RescoreStore) :=
  match s.opportunities[o]? with
  | none => .error (.http 404 "Opportunity not found")
  | some row =>
    match s.latestEvidence o, s.latestScan o with
    | some (artifact, _), some (scan, scanId) =>
      match evaluate scoring s artifact.payload scan scanId with
      | .error e => .error e
      | .ok result =>
        let target := targetReviewState result.metadata.assessmentType result.score
          result.metadata.evidenceQuality
        match rescoreTransition row.status target reason with
        | .error e => .error (.review e)
        | .ok status => .ok (result, saveRescore scoring s o row result status reason)
    | _, _ => .error (.http 400 "No stored scan evidence is available to rescore.")

/-! ## The newest row -/

theorem newestRow_snoc {α : Type} (fits : α → Bool) (rows : List α) (row : α) :
    newestRow fits (rows ++ [row]) =
      if fits row then some (row, rows.length) else newestRow fits rows := by
  simp only [newestRow, List.zipIdx_append, List.zipIdx_singleton, Nat.zero_add,
    List.filter_append, List.filter_singleton]
  by_cases new : fits row = true
  · simp [new]
  · simp [new]

/-- The row under the greatest id that fits. -/
theorem newestRow_some {α : Type} {fits : α → Bool} {rows : List α} {row : α} {i : Nat}
    (newest : newestRow fits rows = some (row, i)) :
    rows[i]? = some row ∧ fits row = true ∧
      ∀ j later, rows[j]? = some later → fits later = true → j ≤ i := by
  induction rows using List.reverseRecOn with
  | nil => cases newest
  | append_singleton rows last ih =>
    rw [newestRow_snoc] at newest
    by_cases new : fits last = true
    · rw [if_pos new] at newest
      obtain ⟨rfl, rfl⟩ := Prod.mk.inj (Option.some.inj newest)
      refine ⟨by simp, new, ?_⟩
      intro j later there _
      have bound := (List.getElem?_eq_some_iff.mp there).1
      simp only [List.length_append, List.length_singleton] at bound
      omega
    · rw [if_neg new] at newest
      obtain ⟨there, fitting, greatest⟩ := ih newest
      have bound := (List.getElem?_eq_some_iff.mp there).1
      refine ⟨by rw [List.getElem?_append_left bound, there], fitting, ?_⟩
      intro j later found fitsLater
      by_cases inside : j < rows.length
      · rw [List.getElem?_append_left inside] at found
        exact greatest j later found fitsLater
      · rw [List.getElem?_append_right (by omega)] at found
        rw [List.getElem?_singleton] at found
        split at found
        · cases found
          exact absurd fitsLater new
        · cases found

/-! ## Histories -/

/-- What happens to the scans of a deployment. `update` is any later write to a
scan row: it starts, fails, is cancelled or quarantined, completes; its
opportunity is that of its service and market throughout. -/
inductive ScanEvent
  | opportunity (row : ScoredOpportunity)
  | create (o : Nat) (scan : ScannedRow)
  | update (i : Nat) (change : ScannedRow → ScannedRow)
  | save (i : Nat) (kind : Pipeline.ArtifactKind) (payload : Dict)
  | calls (plan : List Provider.ScanPlanCall) (calls : List ApiCall)
  | review (o : Nat) (status : OpportunityState)
  | rescore (o : Nat) (reason : String)

def RescoreStore.apply (scoring : Scoring Service Market Evidence) (s : RescoreStore) :
    ScanEvent → RescoreStore
  | .opportunity row => { s with opportunities := s.opportunities ++ [row] }
  | .create o scan => { s with scans := s.scans ++ [{ scan with opportunityId := some o }] }
  | .update i change =>
    { s with scans := s.scans.modify i fun scan =>
        { change scan with opportunityId := scan.opportunityId } }
  | .save i kind payload =>
    match s.scans[i]? with
    | none => s
    | some scan =>
      { s with artifacts := s.artifacts ++ [⟨scan.opportunityId, some i, .saved kind, payload⟩] }
  | .calls plan calls => { s with plan := plan, calls := calls }
  | .review o status =>
    { s with opportunities := s.opportunities.modify o fun row => { row with status := status } }
  | .rescore o reason =>
    match apiOpportunityRescore scoring s o reason with
    | .ok (_, saved) => saved
    | .error _ => s

def RescoreStore.empty : RescoreStore := ⟨[], [], [], [], [], [], []⟩

/-- What a rescore left and what it read are those of one scan. -/
structure AttributedTo (scoring : Scoring Service Market Evidence) (s : RescoreStore) (i : Nat)
    (scan : ScannedRow) (result : Rescored Service Market Evidence) (after : RescoreStore) :
    Prop where
  score : ∃ row, after.scores = s.scores ++ [row] ∧ row.scanRunId = i ∧ row.sourceScanRunId = i
  components : ∃ rows, after.components = s.components ++ rows ∧ ∀ row ∈ rows, row.scanRunId = i
  artifact : ∃ row, after.artifacts = s.artifacts ++ [row] ∧ row.kind = .rescoreResult ∧
    row.scanRunId = some i ∧ row.payload.lookup "source_scan_run_id" = some (.num i)
  service : scan.servicePayload.bind scoring.service = some result.service
  market : scan.marketPayload.bind scoring.market = some result.market
  sourceMode : result.metadata.evidenceSourceMode = scanEvidenceSourceMode scan
  ledger : result.metadata.apiCostLedger = Provider.buildApiCostLedger s.plan s.calls (some i)

/-- They are those of the scan that saved the evidence. -/
def Attributed (scoring : Scoring Service Market Evidence) (s : RescoreStore)
    (artifact : JsonArtifact) (result : Rescored Service Market Evidence) (after : RescoreStore) :
    Prop :=
  ∃ i scan, artifact.scanRunId = some i ∧ s.scans[i]? = some scan ∧
    AttributedTo scoring s i scan result after

/-- No scan of the opportunity was created after the one that saved the evidence. -/
def RescoreStore.NoLaterScan (s : RescoreStore) (o : Nat) (artifact : JsonArtifact) : Prop :=
  ∀ i, artifact.scanRunId = some i →
    ∀ j scan, s.scans[j]? = some scan → scan.opportunityId = some o → j ≤ i

/-! ## Attribution -/

section Rescore
variable {scoring : Scoring Service Market Evidence} {s after : RescoreStore} {o : Nat}
  {reason : String} {result : Rescored Service Market Evidence}

theorem evaluate_ok {payload : Dict} {scan : ScannedRow} {scanId : Nat}
    (ok : evaluate scoring s payload scan scanId = .ok result) :
    result.metadata.scanRunId = scanId ∧
      scan.servicePayload.bind scoring.service = some result.service ∧
      scan.marketPayload.bind scoring.market = some result.market ∧
      result.metadata.evidenceSourceMode = scanEvidenceSourceMode scan ∧
      result.metadata.apiCostLedger = Provider.buildApiCostLedger s.plan s.calls (some scanId) := by
  unfold evaluate at ok
  split at ok
  · rename_i servicePayload marketPayload service market
    split at ok
    · rename_i validService validMarket _
      cases ok
      rw [service, market]
      exact ⟨rfl, validService, validMarket, rfl, rfl⟩
    · cases ok
  · cases ok

/-- A rescore that returns, taken apart. -/
theorem apiOpportunityRescore_ok
    (ok : apiOpportunityRescore scoring s o reason = .ok (result, after)) :
    ∃ row artifact k scan scanId status, s.latestEvidence o = some (artifact, k) ∧
      s.latestScan o = some (scan, scanId) ∧
      evaluate scoring s artifact.payload scan scanId = .ok result ∧
      after = saveRescore scoring s o row result status reason := by
  unfold apiOpportunityRescore at ok
  split at ok
  · cases ok
  · rename_i row _
    split at ok
    · rename_i artifact k scan scanId evidence latest
      split at ok
      · cases ok
      · rename_i evaluated
        dsimp only at ok
        split at ok
        · cases ok
        · rename_i status _
          cases ok
          exact ⟨row, artifact, k, scan, scanId, status, evidence, latest, evaluated, rfl⟩
    · cases ok

/-- Evidence was saved by a scan of its opportunity. -/
def RescoreStore.Sourced (s : RescoreStore) : Prop :=
  ∀ artifact ∈ s.artifacts, artifact.kind.evidence = true →
    ∃ i scan, artifact.scanRunId = some i ∧ s.scans[i]? = some scan ∧
      scan.opportunityId = artifact.opportunityId

theorem RescoreStore.Sourced.of_scans (sourced : s.Sourced) {t : RescoreStore}
    (kept : ∀ (i : Nat) (scan : ScannedRow), s.scans[i]? = some scan →
      ∃ now : ScannedRow, t.scans[i]? = some now ∧ now.opportunityId = scan.opportunityId)
    (artifacts : ∀ artifact ∈ t.artifacts, artifact.kind.evidence = true →
      artifact ∈ s.artifacts) : t.Sourced := by
  intro artifact member evidence
  obtain ⟨i, scan, source, there, same⟩ := sourced artifact (artifacts artifact member evidence) evidence
  obtain ⟨now, found, opportunity⟩ := kept i scan there
  exact ⟨i, now, source, found, opportunity.trans same⟩

theorem RescoreStore.Sourced.apply (sourced : s.Sourced) (e : ScanEvent) :
    (s.apply scoring e).Sourced := by
  cases e with
  | opportunity row => exact sourced
  | calls plan calls => exact sourced
  | review o status => exact sourced
  | create o scan =>
    refine sourced.of_scans ?_ fun artifact member _ => member
    intro i old there
    have bound := (List.getElem?_eq_some_iff.mp there).1
    exact ⟨old, by simpa [RescoreStore.apply, List.getElem?_append_left bound] using there, rfl⟩
  | update i change =>
    refine sourced.of_scans ?_ fun artifact member _ => member
    intro j old there
    by_cases same : i = j
    · subst same
      exact ⟨{ change old with opportunityId := old.opportunityId },
        by simp [RescoreStore.apply, there], rfl⟩
    · exact ⟨old, by simp [RescoreStore.apply, same, there], rfl⟩
  | save i kind payload =>
    cases found : s.scans[i]? with
    | none => simpa only [RescoreStore.apply, found] using sourced
    | some scan =>
      intro artifact member evidence
      simp only [RescoreStore.apply, found] at member ⊢
      rcases List.mem_append.mp member with old | new
      · exact sourced artifact old evidence
      · obtain rfl := List.mem_singleton.mp new
        exact ⟨i, scan, rfl, found, rfl⟩
  | rescore o reason =>
    cases rescored : apiOpportunityRescore scoring s o reason with
    | error e => simpa only [RescoreStore.apply, rescored] using sourced
    | ok pair =>
      obtain ⟨result, after⟩ := pair
      obtain ⟨row, artifact, k, scan, scanId, status, -, -, -, rfl⟩ :=
        apiOpportunityRescore_ok rescored
      simp only [RescoreStore.apply, rescored]
      refine sourced.of_scans (fun i old there => ⟨old, there, rfl⟩) ?_
      intro artifact member evidence
      rcases List.mem_append.mp member with old | new
      · exact old
      · obtain rfl := List.mem_singleton.mp new
        cases evidence

theorem sourced_of_history (scoring : Scoring Service Market Evidence) (events : List ScanEvent) :
    (events.foldl (RescoreStore.apply scoring) .empty).Sourced := by
  induction events using List.reverseRecOn with
  | nil => intro artifact member; cases member
  | append_singleton events e ih =>
    rw [List.foldl_append]
    exact ih.apply e

/-- In every history a rescore is attributed to the scan that produced the
evidence exactly when that scan is the last one created for the opportunity. -/
theorem rescore_attributed_iff (scoring : Scoring Service Market Evidence)
    (events : List ScanEvent) (o : Nat) (reason : String)
    (result : Rescored Service Market Evidence) (after : RescoreStore)
    (ok : apiOpportunityRescore scoring (events.foldl (RescoreStore.apply scoring) .empty) o reason =
      .ok (result, after)) :
    ∃ artifact k, (events.foldl (RescoreStore.apply scoring) .empty).latestEvidence o =
        some (artifact, k) ∧
      (Attributed scoring (events.foldl (RescoreStore.apply scoring) .empty) artifact result after ↔
        (events.foldl (RescoreStore.apply scoring) .empty).NoLaterScan o artifact) := by
  have sourced := sourced_of_history scoring events
  generalize events.foldl (RescoreStore.apply scoring) .empty = s at ok sourced ⊢
  obtain ⟨row, artifact, k, scan, scanId, status, evidence, latest, evaluated, rfl⟩ :=
    apiOpportunityRescore_ok ok
  obtain ⟨scanRunId, service, market, sourceMode, ledger⟩ := evaluate_ok evaluated
  obtain ⟨there, fits, greatest⟩ := newestRow_some latest
  obtain ⟨saved, kind, -⟩ := newestRow_some evidence
  simp only [Bool.and_eq_true, decide_eq_true_eq] at kind
  refine ⟨artifact, k, evidence, ?_, ?_⟩
  · rintro ⟨i, source, savedBy, -, about⟩ j saver last later found opportunity
    obtain ⟨added, scores, named, -⟩ := about.score
    obtain rfl := List.singleton_inj.mp (List.append_cancel_left scores)
    have same : i = j := Option.some.inj (savedBy.symm.trans saver)
    have below := greatest last later found (by simpa using opportunity)
    rw [← same, ← named]
    exact scanRunId ▸ below
  · intro noLater
    obtain ⟨i, source, savedBy, found, opportunity⟩ :=
      sourced artifact (List.mem_of_getElem? saved) kind.2
    have below := noLater i savedBy scanId scan there (by simpa using fits)
    have above := greatest i source found (by simpa [kind.1] using opportunity)
    obtain rfl : i = scanId := Nat.le_antisymm above below
    obtain rfl : scan = source := Option.some.inj (there.symm.trans found)
    refine ⟨i, scan, savedBy, there, ⟨_, rfl, scanRunId, scanRunId⟩, ⟨_, rfl, ?_⟩,
      ⟨_, rfl, rfl, congrArg some scanRunId, ?_⟩, service, market, sourceMode, ledger⟩
    · intro component member
      obtain ⟨_, -, rfl⟩ := List.mem_map.mp member
      exact scanRunId
    · rw [← scanRunId]
      rfl

end Rescore

/-! ## A scan queued after the evidence -/

def sampleScoring : Scoring Unit Unit Unit where
  service _ := some ()
  market _ := some ()
  evidence _ := some ()
  score _ _ _ _ := ⟨"v2.12", 60, "medium", [], "complete", [("demand", 10)]⟩
  assess _ _ _ := [("status", .str "pass")]
  applyToScore score _ := score
  dumpScore score := [("scoring_version", .str score.scoringVersion)]

/-- A full scan in production, then one queued in the sandbox. -/
def sampleScan (status : ScanStatus) (environment : String) : ScannedRow where
  opportunityId := none
  status := status
  dataMode := .live
  scanProfile := .full
  plannedCost := 0
  completedAt := none
  requestParameters := [("service_payload", .obj []), ("market_payload", .obj []),
    ("dataforseo_environment", .str environment)]
  integrationVersions := []

def scannedOnce : List ScanEvent :=
  [.opportunity ⟨.fullReview, some 60, "v2.12", "medium", []⟩,
   .create 0 (sampleScan .completed "production"),
   .save 0 .scanResult [("assessment_type", .str "full")]]

def scannedThenQueued : List ScanEvent :=
  scannedOnce ++ [.create 0 (sampleScan .queued "sandbox")]

theorem rescore_attributed_scannedOnce :
    ∃ result after, apiOpportunityRescore sampleScoring
        (scannedOnce.foldl (RescoreStore.apply sampleScoring) .empty) 0 "New configuration." =
          .ok (result, after) ∧
      ∃ artifact k, (scannedOnce.foldl (RescoreStore.apply sampleScoring) .empty).latestEvidence 0 =
          some (artifact, k) ∧
        (Attributed sampleScoring (scannedOnce.foldl (RescoreStore.apply sampleScoring) .empty)
            artifact result after ↔
          (scannedOnce.foldl (RescoreStore.apply sampleScoring) .empty).NoLaterScan 0 artifact) :=
  ⟨_, _, rfl, rescore_attributed_iff sampleScoring scannedOnce 0 "New configuration." _ _ rfl⟩

/-- The new score is that of the queued scan, which has produced nothing. -/
theorem rescore_misattributed :
    ¬ ∀ (events : List ScanEvent) (o : Nat) (reason : String) (result : Rescored Unit Unit Unit)
        (after : RescoreStore),
      apiOpportunityRescore sampleScoring
          (events.foldl (RescoreStore.apply sampleScoring) .empty) o reason = .ok (result, after) →
      ∀ artifact k, (events.foldl (RescoreStore.apply sampleScoring) .empty).latestEvidence o =
          some (artifact, k) →
        Attributed sampleScoring (events.foldl (RescoreStore.apply sampleScoring) .empty)
          artifact result after := by
  intro all
  obtain ⟨i, scan, saved, -, about⟩ := all scannedThenQueued 0 "New configuration." _ _ rfl _ _ rfl
  obtain ⟨row, scores, named, -⟩ := about.score
  obtain rfl : 0 = i := Option.some.inj saved
  have attached : 1 = row.scanRunId :=
    congrArg ScoreRow.scanRunId (List.singleton_inj.mp (List.append_cancel_left scores))
  omega

end RankRent.Review
