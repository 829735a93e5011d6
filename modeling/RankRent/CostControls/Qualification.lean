import RankRent.CostControls.Effects
import RankRent.Library.PyDict
import RankRent.Library.PyJson
import RankRent.Library.Sha256

/-!
# Provider qualification

`services/qualification.py`: the evidence rows, and what the production gate of
a reservation makes of their history.
-/

namespace RankRent.CostControls

/-- `REQUIRED_QUALIFICATION_CHECKS`. -/
def requiredQualificationChecks : List String :=
  ["account_access", "location_lookup", "keyword_suggestions", "keyword_metrics", "serps",
   "serp_features", "backlinks", "business_listings", "partial_tasks", "rate_limits",
   "billing_errors", "authentication_errors", "schema_drift"]

inductive ExecutionMethod
  | executableRunner | manualImport
  deriving DecidableEq

/-- A row of `provider_qualifications`. Its primary key is its position in the table. -/
structure QualificationRow where
  provider : String
  environment : String
  adapterVersion : String
  passed : Bool
  qualifiedAt : DateTime
  expiresAt : DateTime
  checks : List (String × List (String × PyJson))
  notes : String
  executionMethod : ExecutionMethod
  gateEligible : Bool
  evidenceSha256 : String
  executedBy : String
  overrideReason : String

/-- The arguments of `record_executed_qualification`. -/
structure Qualification where
  provider : String
  environment : String
  adapterVersion : String
  checks : List (String × PyJson)
  ttlHours : ℤ
  executedBy : String
  notes : String
  now : DateTime

/-- The arguments of `record_qualification`. -/
structure ManualImport extends Qualification where
  overrideReason : String

/-- `value is True`. -/
def isTrue : Option PyJson → Bool
  | some (.bool b) => b
  | _ => false

/-- `_normalize_executed_checks`, under one name. -/
def normalizeExecutedCheck : Option PyJson → List (String × PyJson)
  | some (.obj fields) => PyDict.setItem fields "passed" (.bool (isTrue (fields.lookup "passed")))
  | _ => [("passed", .bool false), ("error", .str "Missing executable evidence.")]

/-- `_normalize_executed_checks`. -/
def normalizeExecutedChecks (checks : List (String × PyJson)) :
    List (String × List (String × PyJson)) :=
  requiredQualificationChecks.map fun name => (name, normalizeExecutedCheck (checks.lookup name))

/-- `_passed`. -/
def passedCheck : Option PyJson → Bool
  | some (.obj fields) => isTrue (fields.lookup "passed")
  | value => isTrue value

/-- The checks of a manual import. -/
def importedChecks (checks : List (String × PyJson)) : List (String × List (String × PyJson)) :=
  requiredQualificationChecks.map fun name =>
    (name, [("passed", .bool (passedCheck (checks.lookup name))),
      ("detail", (checks.lookup name).getD .null)])

/-- `all(item["passed"] for item in normalized.values())`. -/
def allPassed (normalized : List (String × List (String × PyJson))) : Bool :=
  normalized.all fun item => isTrue (item.2.lookup "passed")

/-- The normalised checks as a JSON object. -/
def checksJson (normalized : List (String × List (String × PyJson))) : PyJson :=
  .obj (normalized.map fun item => (item.1, .obj item.2))

/-- `_evidence_hash`. -/
def evidenceHash (payload : PyJson) : String := Sha256.hexdigest payload.dumps

/-- The row `record_executed_qualification` adds. -/
def recordExecutedQualification (r : Qualification) : QualificationRow :=
  let normalized := normalizeExecutedChecks r.checks
  { provider := r.provider
    environment := r.environment
    adapterVersion := r.adapterVersion
    passed := allPassed normalized
    qualifiedAt := r.now
    expiresAt := r.now + r.ttlHours * 3600
    checks := normalized
    notes := r.notes
    executionMethod := .executableRunner
    gateEligible := allPassed normalized
    evidenceSha256 := evidenceHash (.obj [("provider", .str r.provider),
      ("environment", .str r.environment), ("adapter_version", .str r.adapterVersion),
      ("checks", checksJson normalized)])
    executedBy := r.executedBy
    overrideReason := "" }

/-- The row `record_qualification` adds. -/
def recordQualification (r : ManualImport) : Except PaidCallError QualificationRow :=
  if PyString.strip r.overrideReason = "" then
    .error (.valueError "Manual qualification imports require an auditable override reason.")
  else
    let normalized := importedChecks r.checks
    .ok
      { provider := r.provider
        environment := r.environment
        adapterVersion := r.adapterVersion
        passed := allPassed normalized
        qualifiedAt := r.now
        expiresAt := r.now + r.ttlHours * 3600
        checks := normalized
        notes := r.notes
        executionMethod := .manualImport
        gateEligible := false
        evidenceSha256 := evidenceHash (checksJson normalized)
        executedBy := r.executedBy
        overrideReason := r.overrideReason }

/-- The environments a reservation can be made in. -/
def environmentNamed : String → Option ApiEnvironment
  | "sandbox" => some .sandbox
  | "production" => some .production
  | _ => none

/-- The columns the gate selects by; no reservation selects a row of another environment. -/
def QualificationRow.gateRow (row : QualificationRow) : Option ProviderQualification :=
  (environmentNamed row.environment).map fun environment =>
    { provider := row.provider
      environment := environment
      adapterVersion := row.adapterVersion
      executableRunner := row.executionMethod = .executableRunner
      passed := row.passed
      gateEligible := row.gateEligible
      qualifiedAt := row.qualifiedAt
      expiresAt := row.expiresAt }

/-! ## Histories -/

/-- `elsewhere` is any transaction on the other tables. -/
inductive QualificationEvent
  | executed (r : Qualification)
  | imported (r : ManualImport)
  | reserve (settings : Settings) (seen : Option ApiCall) (q : ReserveRequest)
  | elsewhere (change : Database → Database)

/-- The evidence rows beside the rest of the store. -/
structure QualificationStore where
  rows : List QualificationRow
  db : Database

/-- The other tables. -/
def withoutQualifications (db : Database) : Database := { db with qualifications := [] }

/-- The store as a reservation reads it. -/
def QualificationStore.database (s : QualificationStore) : Database :=
  { s.db with qualifications := s.rows.filterMap QualificationRow.gateRow }

/-- The row an event adds. -/
def QualificationEvent.row : QualificationEvent → Option QualificationRow
  | .executed r => some (recordExecutedQualification r)
  | .imported r =>
    match recordQualification r with
    | .ok row => some row
    | .error _ => none
  | .reserve .. | .elsewhere _ => none

/-- What an event leaves. -/
def QualificationStore.after (s : QualificationStore) (e : QualificationEvent) :
    QualificationStore where
  rows := s.rows ++ e.row.toList
  db := match e with
    | .executed _ | .imported _ => s.db
    | .reserve settings seen q => (reserveProviderCall settings s.database seen q).2
    | .elsewhere change => change (withoutQualifications s.db)

/-- The outcomes of the reservations of a history, in order. -/
def reservationOutcomes : QualificationStore → List QualificationEvent →
    List (Except PaidCallError UsageReservation)
  | _, [] => []
  | s, e :: events =>
    let later := reservationOutcomes (s.after e) events
    match e with
    | .reserve settings seen q => (reserveProviderCall settings s.database seen q).1 :: later
    | .executed _ | .imported _ | .elsewhere _ => later

/-- No evidence yet. -/
def QualificationStore.start (db : Database) : QualificationStore := ⟨[], db⟩

def QualificationEvent.isImport : QualificationEvent → Bool
  | .imported _ => true
  | .executed _ | .reserve .. | .elsewhere _ => false

/-! ## The latest row -/

theorem latestBy_snoc {α : Type} (time : α → DateTime) (rows : List α) (row : α) :
    latestBy time (rows ++ [row]) = match latestBy time rows with
      | none => some row
      | some best => if time best ≤ time row then some row else some best := by
  rw [latestBy, List.foldl_append]
  rfl

theorem latestBy_none {α : Type} {time : α → DateTime} {rows : List α}
    (none : latestBy time rows = none) : rows = [] := by
  cases rows using List.reverseRecOn with
  | nil => rfl
  | append_singleton rows row =>
    rw [latestBy_snoc] at none
    split at none
    · cases none
    · split at none <;> cases none

/-- Rows before the latest are no later, rows after it are earlier. -/
theorem latestBy_split {α : Type} {time : α → DateTime} {rows : List α} {latest : α}
    (chosen : latestBy time rows = some latest) :
    ∃ earlier later, rows = earlier ++ latest :: later ∧
      (∀ row ∈ earlier, time row ≤ time latest) ∧ ∀ row ∈ later, time row < time latest := by
  induction rows using List.reverseRecOn generalizing latest with
  | nil => cases chosen
  | append_singleton rows row ih =>
    rw [latestBy_snoc] at chosen
    cases best : latestBy time rows with
    | none =>
      simp only [best] at chosen
      obtain rfl := Option.some.inj chosen
      obtain rfl := latestBy_none best
      exact ⟨[], [], rfl, by simp, by simp⟩
    | some b =>
      simp only [best] at chosen
      obtain ⟨earlier, later, rfl, before, after⟩ := ih best
      by_cases newer : time b ≤ time row
      · rw [if_pos newer] at chosen
        obtain rfl := Option.some.inj chosen
        refine ⟨earlier ++ b :: later, [], rfl, ?_, by simp⟩
        intro other member
        rcases List.mem_append.mp member with first | rest
        · exact (before other first).trans newer
        · rcases List.mem_cons.mp rest with rfl | last
          · exact newer
          · exact (after other last).le.trans newer
      · rw [if_neg newer] at chosen
        obtain rfl := Option.some.inj chosen
        refine ⟨earlier, later ++ [row], by simp, before, ?_⟩
        intro other member
        rcases List.mem_append.mp member with last | new
        · exact after other last
        · obtain rfl := List.mem_singleton.mp new
          exact not_le.mp newer

/-! ## The checks of an executed record -/

theorem isTrue_iff {value : Option PyJson} : isTrue value = true ↔ value = some (.bool true) := by
  cases value with
  | none => simp [isTrue]
  | some value => cases value <;> simp [isTrue]

/-- The checks a passed record was made from. -/
def LiterallyPassed (checks : List (String × PyJson)) : Prop :=
  ∀ name ∈ requiredQualificationChecks, ∃ fields,
    checks.lookup name = some (.obj fields) ∧ fields.lookup "passed" = some (.bool true)

theorem normalizeExecutedCheck_passed {value : Option PyJson}
    (passed : isTrue ((normalizeExecutedCheck value).lookup "passed") = true) :
    ∃ fields, value = some (.obj fields) ∧ fields.lookup "passed" = some (.bool true) := by
  unfold normalizeExecutedCheck at passed
  split at passed
  · rename_i fields
    rw [PyDict.lookup_setItem] at passed
    exact ⟨fields, rfl, isTrue_iff.mp passed⟩
  · simp [isTrue] at passed

theorem literallyPassed_of_allPassed {checks : List (String × PyJson)}
    (passed : allPassed (normalizeExecutedChecks checks) = true) : LiterallyPassed checks := by
  intro name required
  have item := List.all_eq_true.mp passed (name, normalizeExecutedCheck (checks.lookup name))
    (List.mem_map.mpr ⟨name, required, rfl⟩)
  exact normalizeExecutedCheck_passed item

/-! ## The gate -/

/-- A reservation the gate let through found a current qualification. -/
theorem reserveProviderCall_qualified {settings : Settings} {db : Database}
    {seen : Option ApiCall} {q : ReserveRequest} {reservation : UsageReservation}
    (production : q.environment = .production) (required : q.requireCurrentQualification = true)
    (ok : (reserveProviderCall settings db seen q).1 = .ok reservation) :
    ∃ latest, currentQualification db q.provider .production q.adapterVersion q.now =
      some latest := by
  unfold reserveProviderCall at ok
  dsimp only at ok
  split at ok
  · cases ok
  · split at ok
    · cases ok
    · rename_i breakers
      have gate := raiseFirst_ok.mp breakers
      simp only [assertDurableBreakers, production, usageClass, required, List.forall_mem_cons,
        decide_true, Bool.true_and] at gate
      obtain ⟨-, -, -, -, -, -, gate, -⟩ := gate
      cases found : currentQualification db q.provider .production q.adapterVersion q.now with
      | some latest => exact ⟨latest, rfl⟩
      | none =>
        have none : currentQualification
            (postUsage db (date q.now) .production q.provider q.endpoint id)
            q.provider .production q.adapterVersion q.now = none := found
        rw [none] at gate
        cases gate

theorem currentQualification_some {db : Database} {provider : String}
    {environment : ApiEnvironment} {adapterVersion : String} {now : DateTime}
    {latest : ProviderQualification}
    (current : currentQualification db provider environment adapterVersion now = some latest) :
    latestBy ProviderQualification.qualifiedAt (db.qualifications.filter fun q =>
        q.provider = provider ∧ q.environment = environment ∧
        q.adapterVersion = adapterVersion ∧ q.executableRunner) = some latest ∧
      latest.passed = true ∧ now < latest.expiresAt := by
  unfold currentQualification at current
  dsimp only at current
  split at current
  · cases current
  · rename_i best chosen
    split at current
    · cases current
    · rename_i holds
      obtain rfl := Option.some.inj current
      simp only [not_or, Bool.not_eq_true', Bool.not_eq_false, not_le] at holds
      exact ⟨chosen, holds.1, holds.2.2⟩

/-! ## What the gate saw of a history -/

/-- The record is of the provider, environment and adapter version of a
reservation in production. -/
def Qualification.For (r : Qualification) (q : ReserveRequest) : Prop :=
  r.provider = q.provider ∧ r.environment = "production" ∧ r.adapterVersion = q.adapterVersion

theorem environmentNamed_production {name : String} :
    environmentNamed name = some .production ↔ name = "production" := by
  unfold environmentNamed
  split <;> simp_all

/-- The rows a reservation in production chooses among. -/
def QualificationRow.candidate (q : ReserveRequest) (row : QualificationRow) :
    Option ProviderQualification :=
  row.gateRow.filter fun g => g.provider = q.provider ∧ g.environment = .production ∧
    g.adapterVersion = q.adapterVersion ∧ g.executableRunner

theorem QualificationRow.candidate_some {q : ReserveRequest} {row : QualificationRow}
    {g : ProviderQualification} (chosen : row.candidate q = some g) :
    row.provider = q.provider ∧ row.environment = "production" ∧
      row.adapterVersion = q.adapterVersion ∧ row.executionMethod = .executableRunner ∧
      g.passed = row.passed ∧ g.qualifiedAt = row.qualifiedAt ∧ g.expiresAt = row.expiresAt := by
  obtain ⟨same, fits⟩ := Option.filter_eq_some_iff.mp chosen
  obtain ⟨environment, named, rfl⟩ := Option.map_eq_some_iff.mp same
  simp only [decide_eq_true_eq] at fits
  obtain ⟨provider, rfl, version, executable⟩ := fits
  exact ⟨provider, environmentNamed_production.mp named, version, executable, rfl, rfl, rfl⟩

/-- An import is never a candidate. -/
theorem recordQualification_candidate {q : ReserveRequest} {r : ManualImport}
    {row : QualificationRow} (recorded : recordQualification r = .ok row) :
    row.candidate q = none := by
  cases chosen : row.candidate q with
  | none => rfl
  | some g =>
    have executable := (QualificationRow.candidate_some chosen).2.2.2.1
    unfold recordQualification at recorded
    split at recorded
    · cases recorded
    · cases recorded
      cases executable

theorem recordExecutedQualification_candidate {q : ReserveRequest} {r : Qualification}
    (fits : r.For q) :
    ∃ g, (recordExecutedQualification r).candidate q = some g ∧ g.qualifiedAt = r.now := by
  obtain ⟨provider, environment, version⟩ := fits
  have named : environmentNamed (recordExecutedQualification r).environment = some .production :=
    environmentNamed_production.mpr environment
  rw [QualificationRow.candidate, QualificationRow.gateRow, named, Option.map_some,
    Option.filter_some_pos]
  · exact ⟨_, rfl, rfl⟩
  · exact decide_eq_true ⟨provider, rfl, version, rfl⟩

/-- The candidate an event adds. -/
def QualificationEvent.candidate (q : ReserveRequest) (e : QualificationEvent) :
    Option ProviderQualification :=
  e.row.bind (QualificationRow.candidate q)

theorem QualificationEvent.candidate_some {q : ReserveRequest} {e : QualificationEvent}
    {g : ProviderQualification} (chosen : e.candidate q = some g) :
    ∃ r, e = .executed r ∧ r.For q ∧ g.qualifiedAt = r.now ∧
      g.expiresAt = r.now + r.ttlHours * 3600 ∧ (g.passed = true → LiterallyPassed r.checks) := by
  obtain ⟨row, added, fits⟩ := Option.bind_eq_some_iff.mp chosen
  cases e with
  | executed r =>
    obtain rfl := Option.some.inj added
    obtain ⟨provider, environment, version, -, passed, at_, expires⟩ :=
      QualificationRow.candidate_some fits
    refine ⟨r, rfl, ⟨provider, environment, version⟩, at_, expires, ?_⟩
    intro yes
    exact literallyPassed_of_allPassed (passed.symm.trans yes)
  | imported r =>
    rw [QualificationEvent.row] at added
    split at added
    · rename_i recorded
      obtain rfl := Option.some.inj added
      rw [recordQualification_candidate recorded] at fits
      cases fits
    · cases added
  | reserve => cases added
  | elsewhere => cases added

theorem QualificationStore.rows_foldl (s : QualificationStore) (events : List QualificationEvent) :
    (events.foldl QualificationStore.after s).rows =
      s.rows ++ events.filterMap QualificationEvent.row := by
  induction events generalizing s with
  | nil => simp
  | cons e events ih =>
    rw [List.foldl_cons, ih, List.filterMap_cons]
    cases added : e.row <;> simp [QualificationStore.after, added]

/-- The rows the gate chooses the latest of are the candidates of the history. -/
theorem candidates_of_history (db : Database) (events : List QualificationEvent)
    (q : ReserveRequest) :
    ((events.foldl QualificationStore.after (.start db)).database.qualifications.filter fun g =>
        g.provider = q.provider ∧ g.environment = .production ∧
        g.adapterVersion = q.adapterVersion ∧ g.executableRunner) =
      events.filterMap (QualificationEvent.candidate q) := by
  rw [QualificationStore.database, QualificationStore.rows_foldl, QualificationStore.start,
    List.nil_append, List.filterMap_filterMap, List.filter_filterMap]
  refine congrArg (fun f => events.filterMap f) (funext fun e => ?_)
  rw [QualificationEvent.candidate]
  cases e.row <;> rfl

/-- The record that let a reservation through: no record of that kind before it
is later, every one after it is earlier. -/
theorem qualified_by_latest {db : Database} {events : List QualificationEvent}
    {settings : Settings} {seen : Option ApiCall} {q : ReserveRequest}
    {reservation : UsageReservation} (production : q.environment = .production)
    (required : q.requireCurrentQualification = true)
    (ok : (reserveProviderCall settings
      (events.foldl QualificationStore.after (.start db)).database seen q).1 = .ok reservation) :
    ∃ earlier r later, events = earlier ++ .executed r :: later ∧ r.For q ∧
      (∀ other, .executed other ∈ earlier → other.For q → other.now ≤ r.now) ∧
      (∀ other, .executed other ∈ later → other.For q → other.now < r.now) ∧
      LiterallyPassed r.checks ∧ q.now < r.now + r.ttlHours * 3600 := by
  obtain ⟨latest, current⟩ := reserveProviderCall_qualified production required ok
  obtain ⟨chosen, passed, unexpired⟩ := currentQualification_some current
  rw [candidates_of_history] at chosen
  obtain ⟨before, after, rows, noLater, sooner⟩ := latestBy_split chosen
  obtain ⟨earlier, rest, rfl, isBefore, isRest⟩ := List.filterMap_eq_append_iff.mp rows
  obtain ⟨skipped, e, later, rfl, none, candidate, isAfter⟩ := List.filterMap_eq_cons_iff.mp isRest
  obtain ⟨r, rfl, fits, made, expires, literally⟩ := QualificationEvent.candidate_some candidate
  refine ⟨earlier ++ skipped, r, later, by simp, fits, ?_, ?_, literally passed,
    expires ▸ unexpired⟩
  · intro other member theirs
    obtain ⟨g, theirCandidate, theirTime⟩ := recordExecutedQualification_candidate theirs
    rcases List.mem_append.mp member with first | second
    · have listed : g ∈ before := isBefore ▸ List.mem_filterMap.mpr ⟨_, first, theirCandidate⟩
      exact theirTime ▸ made ▸ noLater g listed
    · have unlisted := none _ second
      rw [QualificationEvent.candidate, QualificationEvent.row, Option.bind_some, theirCandidate]
        at unlisted
      cases unlisted
  · intro other member theirs
    obtain ⟨g, theirCandidate, theirTime⟩ := recordExecutedQualification_candidate theirs
    have listed : g ∈ after := isAfter ▸ List.mem_filterMap.mpr ⟨_, member, theirCandidate⟩
    exact theirTime ▸ made ▸ sooner g listed

/-! ## Two histories -/

theorem reserveRow_rest {a b : Database} {seen : Option ApiCall} {q : ReserveRequest}
    (rest : withoutQualifications a = withoutQualifications b) :
    withoutQualifications (reserveRow a seen q) = withoutQualifications (reserveRow b seen q) := by
  obtain ⟨scans, calls, usage, left, reconciliations⟩ := a
  obtain ⟨_, _, _, right, _⟩ := b
  simp only [withoutQualifications, Database.mk.injEq] at rest
  obtain ⟨rfl, rfl, rfl, -, rfl⟩ := rest
  unfold reserveRow
  cases q.apiCallId with
  | none => rfl
  | some i =>
    have read (qualifications : List ProviderQualification) :
        Database.getCall ⟨scans, calls, usage, qualifications, reconciliations⟩ seen i =
          Database.getCall ⟨scans, calls, usage, [], reconciliations⟩ seen i := rfl
    dsimp only
    rw [read left, read right]
    split
    · rfl
    · unfold Database.putCall
      cases calls[i]? <;> rfl

/-- A reservation reads the evidence through the gate alone. -/
theorem reserveProviderCall_gate {settings : Settings} {base : Database}
    {left right : List ProviderQualification} {seen : Option ApiCall} {q : ReserveRequest}
    (same : currentQualification { base with qualifications := left } q.provider q.environment
        q.adapterVersion q.now =
      currentQualification { base with qualifications := right } q.provider q.environment
        q.adapterVersion q.now) :
    (reserveProviderCall settings { base with qualifications := left } seen q).1 =
        (reserveProviderCall settings { base with qualifications := right } seen q).1 ∧
      withoutQualifications
          (reserveProviderCall settings { base with qualifications := left } seen q).2 =
        withoutQualifications
          (reserveProviderCall settings { base with qualifications := right } seen q).2 := by
  have gate (key : UsageKey) :
      assertDurableBreakers settings
          (postUsage { base with qualifications := left } (date q.now) (usageClass q.environment)
            q.provider q.endpoint id)
          (lockedBucket (postUsage { base with qualifications := left } (date q.now)
            (usageClass q.environment) q.provider q.endpoint id).usage key) q =
        assertDurableBreakers settings
          (postUsage { base with qualifications := right } (date q.now) (usageClass q.environment)
            q.provider q.endpoint id)
          (lockedBucket (postUsage { base with qualifications := right } (date q.now)
            (usageClass q.environment) q.provider q.endpoint id).usage key) q := by
    have found : currentQualification
          (postUsage { base with qualifications := left } (date q.now) (usageClass q.environment)
            q.provider q.endpoint id) q.provider q.environment q.adapterVersion q.now =
        currentQualification
          (postUsage { base with qualifications := right } (date q.now) (usageClass q.environment)
            q.provider q.endpoint id) q.provider q.environment q.adapterVersion q.now := same
    rw [assertDurableBreakers, found]
    rfl
  have front (qualifications : List ProviderQualification) :
      leaseChecks { base with qualifications := qualifications } q.executionLease q.now ++
          assertSwitches settings q.environment q.scanProfile ++
          [abnormalCostCheck settings q.estimatedCost] ++
          eligibilityChecks { base with qualifications := qualifications } seen q.apiCallId =
        leaseChecks base q.executionLease q.now ++
          assertSwitches settings q.environment q.scanProfile ++
          [abnormalCostCheck settings q.estimatedCost] ++
          eligibilityChecks base seen q.apiCallId := rfl
  unfold reserveProviderCall
  dsimp only
  rw [front left, front right, gate]
  cases raiseFirst (leaseChecks base q.executionLease q.now ++
      assertSwitches settings q.environment q.scanProfile ++
      [abnormalCostCheck settings q.estimatedCost] ++
      eligibilityChecks base seen q.apiCallId) with
  | error e => exact ⟨rfl, rfl⟩
  | ok _ =>
    dsimp only
    split
    · exact ⟨rfl, rfl⟩
    · exact ⟨rfl, reserveRow_rest rfl⟩

/-- What the executable runner recorded. -/
def QualificationStore.executed (s : QualificationStore) : List QualificationRow :=
  s.rows.filter fun row => row.executionMethod = .executableRunner

/-- Stores that differ in imported rows only. -/
structure QualificationStore.Agree (s t : QualificationStore) : Prop where
  rest : withoutQualifications s.db = withoutQualifications t.db
  executed : s.executed = t.executed

theorem QualificationStore.Agree.trans {s t u : QualificationStore} (first : s.Agree t)
    (second : t.Agree u) : s.Agree u :=
  ⟨first.rest.trans second.rest, first.executed.trans second.executed⟩

/-- The gate selects executed rows. -/
theorem currentQualification_executed (s : QualificationStore) (base : Database)
    (provider : String) (environment : ApiEnvironment) (adapterVersion : String) (now : DateTime) :
    currentQualification { base with qualifications := s.rows.filterMap QualificationRow.gateRow }
        provider environment adapterVersion now =
      currentQualification
        { base with qualifications := s.executed.filterMap QualificationRow.gateRow }
        provider environment adapterVersion now := by
  have same : (s.rows.filterMap QualificationRow.gateRow).filter (fun q =>
        q.provider = provider ∧ q.environment = environment ∧
        q.adapterVersion = adapterVersion ∧ q.executableRunner) =
      (s.executed.filterMap QualificationRow.gateRow).filter (fun q =>
        q.provider = provider ∧ q.environment = environment ∧
        q.adapterVersion = adapterVersion ∧ q.executableRunner) := by
    rw [QualificationStore.executed, List.filter_filterMap, List.filter_filterMap,
      List.filterMap_filter]
    refine congrArg (fun f => s.rows.filterMap f) (funext fun row => ?_)
    by_cases executed : row.executionMethod = .executableRunner
    · simp [executed]
    · simp [executed, QualificationRow.gateRow]
  simp only [currentQualification, same]

/-- Agreeing stores give a reservation one outcome. -/
theorem QualificationStore.Agree.reserve {s t : QualificationStore} (agree : s.Agree t)
    (settings : Settings) (seen : Option ApiCall) (q : ReserveRequest) :
    (reserveProviderCall settings s.database seen q).1 =
        (reserveProviderCall settings t.database seen q).1 ∧
      withoutQualifications (reserveProviderCall settings s.database seen q).2 =
        withoutQualifications (reserveProviderCall settings t.database seen q).2 := by
  have split (u : QualificationStore) : u.database = { withoutQualifications u.db with
    qualifications := u.rows.filterMap QualificationRow.gateRow } := rfl
  rw [split s, split t, agree.rest]
  refine reserveProviderCall_gate ?_
  rw [currentQualification_executed s, currentQualification_executed t, agree.executed]

theorem recordQualification_method {r : ManualImport} {row : QualificationRow}
    (recorded : recordQualification r = .ok row) : row.executionMethod = .manualImport := by
  unfold recordQualification at recorded
  split at recorded
  · cases recorded
  · cases recorded
    rfl

theorem QualificationStore.executed_after (s : QualificationStore) (e : QualificationEvent) :
    (s.after e).executed = s.executed ++
      e.row.toList.filter fun row => row.executionMethod = .executableRunner :=
  List.filter_append ..

/-- An import leaves a store that agrees. -/
theorem QualificationStore.agree_imported (s : QualificationStore) (r : ManualImport) :
    (s.after (.imported r)).Agree s where
  rest := rfl
  executed := by
    have none : (QualificationEvent.imported r).row.toList.filter
        (fun row => row.executionMethod = .executableRunner) = [] := by
      rw [QualificationEvent.row]
      split
      · rename_i recorded
        simp [recordQualification_method recorded]
      · rfl
    rw [executed_after, none, List.append_nil]

theorem QualificationStore.Agree.after {s t : QualificationStore} (agree : s.Agree t)
    (e : QualificationEvent) : (s.after e).Agree (t.after e) where
  rest := by
    cases e with
    | executed | imported => exact agree.rest
    | reserve settings seen q => exact (agree.reserve settings seen q).2
    | elsewhere change =>
      rw [QualificationStore.after, QualificationStore.after, agree.rest]
  executed := by rw [QualificationStore.executed_after, QualificationStore.executed_after,
    agree.executed]

/-- Every reservation has the outcome it has without the imports. -/
theorem reservationOutcomes_filter {s t : QualificationStore} (agree : s.Agree t)
    (events : List QualificationEvent) :
    reservationOutcomes s events =
      reservationOutcomes t (events.filter fun e => !e.isImport) := by
  induction events generalizing s t with
  | nil => rfl
  | cons e events ih =>
    cases e with
    | imported r =>
      have skipped := s.agree_imported r |>.trans agree
      exact ih skipped
    | executed r => exact ih (agree.after (.executed r))
    | elsewhere change => exact ih (agree.after (.elsewhere change))
    | reserve settings seen q =>
      have later := ih (agree.after (.reserve settings seen q))
      rw [List.filter_cons_of_pos (by rfl), reservationOutcomes, reservationOutcomes, later,
        (agree.reserve settings seen q).1]

/-- The gate of production: it lets a call through only when the latest record
that the executable runner made for exactly that provider, environment and
adapter version passed every check and has not expired; imports change nothing. -/
theorem qualification_gate (db : Database) :
    (∀ events settings seen q reservation, q.environment = .production →
      q.requireCurrentQualification = true →
      (reserveProviderCall settings
        (events.foldl QualificationStore.after (.start db)).database seen q).1 = .ok reservation →
      ∃ earlier r later, events = earlier ++ .executed r :: later ∧ r.For q ∧
        (∀ other, .executed other ∈ earlier → other.For q → other.now ≤ r.now) ∧
        (∀ other, .executed other ∈ later → other.For q → other.now < r.now) ∧
        LiterallyPassed r.checks ∧ q.now < r.now + r.ttlHours * 3600) ∧
    ∀ events others : List QualificationEvent,
      events.filter (fun e => !e.isImport) = others.filter (fun e => !e.isImport) →
      reservationOutcomes (.start db) events = reservationOutcomes (.start db) others := by
  constructor
  · intro events settings seen q reservation production required ok
    exact qualified_by_latest production required ok
  · intro events others same
    have agree : (QualificationStore.start db).Agree (.start db) := ⟨rfl, rfl⟩
    rw [reservationOutcomes_filter agree events, same, reservationOutcomes_filter agree others]

/-- A run in which every check passed. -/
def passingRun : Qualification where
  provider := "dataforseo"
  environment := "production"
  adapterVersion := "dataforseo-v3-workstream-d-2"
  checks := requiredQualificationChecks.map fun name => (name, .obj [("passed", .bool true)])
  ttlHours := 24
  executedBy := "runner"
  notes := ""
  now := 0

def failingImport : ManualImport :=
  { passingRun with checks := [], now := 60, overrideReason := "audit" }

def qualifiedCall : ReserveRequest where
  provider := "dataforseo"
  environment := .production
  adapterVersion := "dataforseo-v3-workstream-d-2"
  endpoint := "serp"
  estimatedCost := 1 / 100
  scanProfile := .full
  cacheMiss := true
  requireCurrentQualification := true
  apiCallId := none
  executionLease := none
  now := 120

def importedAfter : List QualificationEvent := [.executed passingRun, .imported failingImport]

theorem qualification_gate_passingRun :
    (∃ earlier r later, importedAfter = earlier ++ .executed r :: later ∧ r.For qualifiedCall ∧
        LiterallyPassed r.checks) ∧
      reservationOutcomes (.start ⟨[], [], [], [], []⟩)
          (importedAfter ++ [.reserve .live none qualifiedCall]) =
        reservationOutcomes (.start ⟨[], [], [], [], []⟩)
          [.executed passingRun, .reserve .live none qualifiedCall] := by
  obtain ⟨latest, unchanged⟩ := qualification_gate ⟨[], [], [], [], []⟩
  constructor
  · obtain ⟨earlier, r, later, history, fits, -, -, passed, -⟩ := latest
      importedAfter .live none qualifiedCall
      ⟨0, .production, "dataforseo", "serp", 1 / 100, none⟩ rfl rfl (by decide +kernel)
    exact ⟨earlier, r, later, history, fits, passed⟩
  · exact unchanged _ _ rfl

end RankRent.CostControls
