import RankRent.Library.Matching
import RankRent.Library.PyString
import RankRent.Library.Table
import RankRent.Store.Schema

/-!
# Billing reconciliation

`services/billing.py`: the charges of a provider's CSV against the completed
calls of the days it bills. The query has no `ORDER BY`, so the store may return
its rows in any `order`.
-/

namespace RankRent

structure ProviderCharge where
  providerRequestId : Option String
  providerTaskId : Option String
  endpoint : String
  cost : Usd
  billedAt : DateTime
  deriving DecidableEq

/-- A call with its primary key. -/
structure BilledCall extends ApiCall where
  id : Nat
  deriving DecidableEq

/-- `if charge_id and call_id == charge_id`. -/
def sameId (charged called : Option String) : Bool :=
  match charged with
  | none => false
  | some id => id ≠ "" && called = some id

/-- `_matches`. -/
def matchesCall (charge : ProviderCharge) (call : BilledCall) : Bool :=
  sameId charge.providerRequestId call.providerRequestId ||
    sameId charge.providerTaskId call.providerTaskId

/-- The query of `reconcile_billing_csv`, in primary key order. -/
def billedCalls (calls : List ApiCall) (provider : String) (periodStart periodEnd : Date) :
    List BilledCall :=
  (calls.zipIdx.map fun (call, id) => { call with id }).filter fun call =>
    call.provider = provider && call.status = .completed && call.completedAt.any fun completedAt =>
      (periodStart : DateTime) * 86400 ≤ completedAt && completedAt < ((periodEnd : DateTime) + 1) * 86400

structure Unmatched where
  charges : List ProviderCharge
  calls : List BilledCall
  deriving DecidableEq

/-- One turn of the loop over the charges. -/
def Unmatched.charge (left : Unmatched) (charge : ProviderCharge) : Unmatched :=
  match left.calls.find? (matchesCall charge) with
  | none => { left with charges := left.charges ++ [charge] }
  | some found => { left with calls := left.calls.filter fun call => call.id ≠ found.id }

def unmatched (charges : List ProviderCharge) (calls : List BilledCall) : Unmatched :=
  charges.foldl Unmatched.charge ⟨[], calls⟩

def internalCost (calls : List BilledCall) : Usd :=
  PyString.rounded 6 (calls.map (·.actualCost)).sum

def providerCost (charges : List ProviderCharge) : Usd :=
  PyString.rounded 6 (charges.map ProviderCharge.cost).sum

def costDifference (charges : List ProviderCharge) (calls : List BilledCall) : Usd :=
  PyString.rounded 6 (providerCost charges - internalCost calls)

/-- The row `reconcile_billing_csv` stores and reports. -/
structure ReconciliationReport extends BillingReconciliation where
  periodStart : Date
  periodEnd : Date
  internalCallCount : Nat
  providerCallCount : Nat
  internalCost : Usd
  providerCost : Usd
  unmatchedProviderCharges : List ProviderCharge
  unmatchedInternalCalls : List BilledCall
  difference : Usd
  sourceFilename : String
  deriving DecidableEq

/-- The column `status`. -/
def ReconciliationReport.status (row : ReconciliationReport) : String :=
  if row.clean then "clean" else "mismatch"

variable (order : List BilledCall → List BilledCall)

/-- The calls `reconcile_billing_csv` loads for these charges. -/
def periodCalls (db : Database) (charges : List ProviderCharge) (provider : String) :
    List BilledCall :=
  let days := charges.map fun charge => date charge.billedAt
  order (billedCalls db.calls provider (days.min?.getD 0) (days.max?.getD 0))

/-- `reconcile_billing_csv` on the charges `_read_charges` returns. -/
def reconcileBillingCsv (db : Database) (charges : List ProviderCharge) (provider : String)
    (environment : ApiEnvironment) (tolerance : Usd) (now : DateTime) (sourceFilename : String) :
    Except String (Database × ReconciliationReport) :=
  if charges.isEmpty then .error "Billing CSV contains no charge rows."
  else
    let days := charges.map fun charge => date charge.billedAt
    let calls := periodCalls order db charges provider
    let left := unmatched charges calls
    let difference := costDifference charges calls
    let row : ReconciliationReport :=
      { provider := provider
        environment := environment
        periodStart := days.min?.getD 0
        periodEnd := days.max?.getD 0
        reconciledAt := now
        clean := left.charges.isEmpty && left.calls.isEmpty && |difference| ≤ tolerance
        internalCallCount := calls.length
        providerCallCount := charges.length
        internalCost := internalCost calls
        providerCost := providerCost charges
        unmatchedProviderCharges := left.charges
        unmatchedInternalCalls := left.calls
        difference := difference
        sourceFilename := sourceFilename }
    .ok ({ db with reconciliations := db.reconciliations ++ [row.toBillingReconciliation] }, row)

/-- The charges and the period's calls can be paired off, and cost the same. -/
def Reconciled (charges : List ProviderCharge) (calls : List BilledCall) (tolerance : Usd) : Prop :=
  Matching.Perfect matchesCall charges calls ∧ |costDifference charges calls| ≤ tolerance

/-! ## The loop -/

/-- Ids being unique, the loop takes calls as `Matching.greedy` does. -/
theorem unmatched_eq_greedy (charges before : List ProviderCharge) {calls : List BilledCall}
    (unique : (calls.map BilledCall.id).Nodup) :
    charges.foldl Unmatched.charge ⟨before, calls⟩ =
      ⟨before ++ (Matching.greedy matchesCall charges calls).1,
        (Matching.greedy matchesCall charges calls).2⟩ := by
  induction charges generalizing before calls with
  | nil => simp [Matching.greedy]
  | cons charge charges ih =>
    cases found : calls.find? (matchesCall charge) with
    | none =>
      simp only [List.foldl_cons, Unmatched.charge, found, Matching.greedy, Option.isSome_none,
        Bool.false_eq_true, ↓reduceIte]
      rw [ih _ unique, List.append_assoc, List.singleton_append]
    | some call =>
      simp only [List.foldl_cons, Unmatched.charge, found, Matching.greedy, Option.isSome_some,
        ↓reduceIte, Table.filter_ne_eq_eraseP BilledCall.id unique found]
      exact ih before (unique.sublist ((List.eraseP_sublist ..).map _))

theorem billedCalls_unique (calls : List ApiCall) (provider : String) (periodStart periodEnd : Date) :
    ((billedCalls calls provider periodStart periodEnd).map BilledCall.id).Nodup := by
  have all : ((calls.zipIdx.map fun (call, id) => ({ call with id } : BilledCall)).map
      BilledCall.id).Nodup := by
    have ids : (calls.zipIdx.map fun (call, id) => ({ call with id } : BilledCall)).map
        BilledCall.id = List.range' 0 calls.length := by
      rw [List.map_map, ← List.zipIdx_map_snd]
      rfl
    rw [ids]
    exact List.nodup_range'
  exact all.sublist (List.filter_sublist.map _)

variable {order}

theorem periodCalls_unique (reorders : ∀ rows, (order rows).Perm rows) (db : Database)
    (charges : List ProviderCharge) (provider : String) :
    ((periodCalls order db charges provider).map BilledCall.id).Nodup :=
  (((reorders _).map _).nodup_iff).mpr (billedCalls_unique ..)

/-! ## The verdict -/

theorem unmatched_none_iff (charges : List ProviderCharge) {calls : List BilledCall}
    (unique : (calls.map BilledCall.id).Nodup) :
    (unmatched charges calls).charges = [] ∧ (unmatched charges calls).calls = [] ↔
      Matching.Perfect matchesCall charges calls ∧
        ¬ Matching.Strands matchesCall charges calls := by
  rw [unmatched, unmatched_eq_greedy charges [] unique, List.nil_append,
    ← Matching.greedy_complete_iff, Prod.ext_iff]

example : (unmatched [⟨none, none, "/v3/serp", 1 / 4, 30⟩] []).charges.length = 1 := by decide +kernel

/-- What a run on a CSV with charges reports. -/
theorem reconcile_status (reorders : ∀ rows, (order rows).Perm rows) (db : Database)
    {charges : List ProviderCharge} (some : charges ≠ []) (provider : String)
    (environment : ApiEnvironment) (tolerance : Usd) (now : DateTime) (sourceFilename : String) :
    ∃ db' row, reconcileBillingCsv order db charges provider environment tolerance now
        sourceFilename = .ok (db', row) ∧
      (row.status = "clean" ↔
        Reconciled charges (periodCalls order db charges provider) tolerance ∧
          ¬ Matching.Strands matchesCall charges (periodCalls order db charges provider)) := by
  have nonempty : charges.isEmpty = false := by simpa using some
  simp only [reconcileBillingCsv, nonempty, Bool.false_eq_true, ↓reduceIte]
  refine ⟨_, _, rfl, ?_⟩
  have none := unmatched_none_iff charges (periodCalls_unique reorders db charges provider)
  simp only [ReconciliationReport.status, Bool.and_eq_true, List.isEmpty_iff, decide_eq_true_eq,
    Reconciled, none, ite_eq_left_iff]
  constructor
  · intro clean
    by_contra wrong
    have text := clean (fun all => wrong ⟨⟨all.1.1, all.2⟩, all.1.2⟩)
    exact absurd text (by decide)
  · intro ⟨⟨perfect, within⟩, unstranded⟩ wrong
    exact absurd ⟨⟨perfect, unstranded⟩, within⟩ wrong

/-- Row orders matter neither to a matching nor to the costs. -/
theorem Reconciled.perm {charges charges' : List ProviderCharge} {calls calls' : List BilledCall}
    (sameCharges : charges'.Perm charges) (sameCalls : calls'.Perm calls) (tolerance : Usd) :
    Reconciled charges' calls' tolerance ↔ Reconciled charges calls tolerance := by
  have provider : providerCost charges' = providerCost charges := by
    rw [providerCost, providerCost, (sameCharges.map _).sum_eq]
  have internal : internalCost calls' = internalCost calls := by
    rw [internalCost, internalCost, (sameCalls.map _).sum_eq]
  rw [Reconciled, Reconciled, Matching.Perfect.perm sameCharges sameCalls, costDifference,
    costDifference, provider, internal]

theorem max?_perm {days days' : List Date} (same : days'.Perm days) : days'.max? = days.max? := by
  ext day
  simp only [List.max?_eq_some_iff, same.mem_iff]

/-- The charges and the period's calls can be paired off and cost the same, but
some charge, at its turn, takes a call that every perfect matching of the rest
gives to another charge. -/
def Misjudged (order : List BilledCall → List BilledCall) (db : Database)
    (charges : List ProviderCharge) (provider : String) (tolerance : Usd) : Prop :=
  Reconciled charges (periodCalls order db charges provider) tolerance ∧
    Matching.Strands matchesCall charges (periodCalls order db charges provider)

/-- Ids that single out one call each leave nothing to misjudge. -/
theorem not_misjudged_of_unique_ids (order : List BilledCall → List BilledCall) (db : Database)
    (charges : List ProviderCharge) (provider : String) (tolerance : Usd)
    (unique : ∀ charge ∈ charges, ∀ call ∈ periodCalls order db charges provider,
      ∀ other ∈ periodCalls order db charges provider,
      matchesCall charge call = true → matchesCall charge other = true → call = other) :
    ¬ Misjudged order db charges provider tolerance :=
  fun misjudged => Matching.not_strands_of_unique unique misjudged.2

namespace SharedTask

/-- A completed call for `task-1`. -/
def call (request : String) : ApiCall :=
  { scanRunId := Option.some 1, plannedRequestId := none, rawApiResponseId := none
    provider := "dataforseo-live", endpoint := "/v3/serp", cacheKey := request, cacheHit := false
    forceRefresh := false, estimatedCost := 1 / 4, actualCost := 1 / 4, status := .completed
    errorType := none, errorSummary := none, startedAt := Option.some 10
    completedAt := Option.some 20, providerTaskId := Option.some "task-1"
    providerRequestId := Option.some request, attemptToken := none, attemptState := .completed
    providerOutcome := .billed, reservationState := .finalized, reservationUsageDate := none
    reservationUsageClass := none, reservationEstimatedCost := 0, networkStartedAt := none
    reconciledAt := none, executionWorkerId := none, executionLeaseToken := none }

def db : Database := ⟨[], [call "req-1", call "req-2"], [], [], []⟩

/-- One charge names the second request and the task both calls share, the
other the first request alone. -/
def charges : List ProviderCharge :=
  [⟨Option.some "req-2", Option.some "task-1", "/v3/serp", 1 / 4, 30⟩,
    ⟨Option.some "req-1", none, "/v3/serp", 1 / 4, 40⟩]

def first : BilledCall := { call "req-1" with id := 0 }

def second : BilledCall := { call "req-2" with id := 1 }

example : charges.map (matchesCall · first) = [true, true] := by decide +kernel

theorem calls_eq : periodCalls id db charges "dataforseo-live" = [first, second] := by
  decide +kernel

theorem reconciled :
    Reconciled charges (periodCalls id db charges "dataforseo-live") (1 / 100) := by
  rw [calls_eq]
  refine ⟨Matching.perfect_cons.mpr ⟨second, [first], by decide, List.Perm.swap .., ?_⟩,
    by decide +kernel⟩
  exact Matching.perfect_cons.mpr ⟨first, [], by decide, List.Perm.refl _, Matching.perfect_nil.mpr rfl⟩

/-- The verdict on these charges. -/
def verdict (order : List BilledCall → List BilledCall) (charges : List ProviderCharge) :
    Except String String :=
  (reconcileBillingCsv order db charges "dataforseo-live" .production (1 / 100) 100
    "billing.csv").map fun ran => ran.2.status

example : (verdict id []).isOk = false := by decide +kernel

end SharedTask

end RankRent

/-!
## Request ids in billing

The documented preference is for the request id, with the task id as a fallback;
`_matches` accepts either, so the order of the calls left decides.
-/

namespace RankRent

/-- The request part of `_matches`. -/
def sameRequest (charge : ProviderCharge) (call : BilledCall) : Bool :=
  sameId charge.providerRequestId call.providerRequestId

/-- The task part. -/
def sameTask (charge : ProviderCharge) (call : BilledCall) : Bool :=
  sameId charge.providerTaskId call.providerTaskId

theorem matchesCall_iff {charge : ProviderCharge} {call : BilledCall} :
    matchesCall charge call = true ↔ sameRequest charge call = true ∨ sameTask charge call = true := by
  rw [matchesCall, Bool.or_eq_true]
  rfl

/-- Where a call left has the request id of the charge, the charge takes such a call. -/
def PrefersRequest (left : Unmatched) (charge : ProviderCharge) : Prop :=
  (∃ call ∈ left.calls, sameRequest charge call = true) →
    ∃ call, left.calls.find? (matchesCall charge) = some call ∧ sameRequest charge call = true

/-- Before the first call left with the request id of the charge comes one that
shares its task id only. -/
def TaskCallFirst (left : Unmatched) (charge : ProviderCharge) : Prop :=
  ∃ earlier call later, left.calls = earlier ++ call :: later ∧ sameRequest charge call = true ∧
    (∀ other ∈ earlier, sameRequest charge other = false) ∧
    ∃ other ∈ earlier, sameTask charge other = true

theorem prefersRequest_iff (left : Unmatched) (charge : ProviderCharge) :
    PrefersRequest left charge ↔ ¬ TaskCallFirst left charge := by
  constructor
  · rintro prefers ⟨earlier, call, later, split, requested, none, other, before, shared⟩
    obtain ⟨taken, found, named⟩ :=
      prefers ⟨call, by simp [split], requested⟩
    have accepted : (earlier.find? (matchesCall charge)).isSome := by
      rw [List.find?_isSome]
      exact ⟨other, before, matchesCall_iff.mpr (.inr shared)⟩
    obtain ⟨first, foundFirst⟩ := Option.isSome_iff_exists.mp accepted
    rw [split, List.find?_append, foundFirst, Option.some_or] at found
    obtain rfl := Option.some.inj found
    rw [none first (List.mem_of_find?_eq_some foundFirst)] at named
    cases named
  · rintro never ⟨call, there, requested⟩
    have some : (left.calls.find? (sameRequest charge)).isSome := by
      rw [List.find?_isSome]
      exact ⟨call, there, requested⟩
    obtain ⟨first, found⟩ := Option.isSome_iff_exists.mp some
    obtain ⟨named, earlier, later, split, none⟩ := List.find?_eq_some_iff_append.mp found
    have none : ∀ other ∈ earlier, sameRequest charge other = false := by
      intro other before
      simpa using none other before
    refine ⟨first, ?_, named⟩
    rw [List.find?_eq_some_iff_append]
    refine ⟨matchesCall_iff.mpr (.inl named), earlier, later, split, ?_⟩
    intro other before
    have unshared : ¬ sameTask charge other = true := fun shared =>
      never ⟨earlier, first, later, split, named, none, other, before, shared⟩
    have unmatched : ¬ matchesCall charge other = true := by
      rw [matchesCall_iff, none other before]
      simpa using unshared
    simpa using unmatched

/-- Whatever the charges and the calls, every charge is given a call with its
request id where one is left exactly when none of them finds, at its turn, a
call of its task before the first of its request. -/
theorem request_id_preferred_iff (charges : List ProviderCharge) (calls : List BilledCall) :
    (∀ before charge after, charges = before ++ charge :: after →
        PrefersRequest (unmatched before calls) charge) ↔
      ∀ before charge after, charges = before ++ charge :: after →
        ¬ TaskCallFirst (unmatched before calls) charge := by
  simp only [prefersRequest_iff]

/-- The charge for `req-2` takes the call of `req-1`, with which it shares the task. -/
theorem task_call_taken :
    ¬ ∀ (charges : List ProviderCharge) (calls : List BilledCall) (before : List ProviderCharge)
        (charge : ProviderCharge) (after : List ProviderCharge),
      charges = before ++ charge :: after → PrefersRequest (unmatched before calls) charge := by
  intro all
  obtain ⟨taken, found, named⟩ := all SharedTask.charges [SharedTask.first, SharedTask.second] []
    _ _ rfl ⟨SharedTask.second, by simp [unmatched], by decide⟩
  have first : (unmatched [] [SharedTask.first, SharedTask.second]).calls.find?
      (matchesCall ⟨some "req-2", some "task-1", "/v3/serp", 1 / 4, 30⟩) =
        some SharedTask.first := by decide +kernel
  obtain rfl := Option.some.inj (first.symm.trans found)
  exact absurd named (by decide)

end RankRent
