import Mathlib.Data.List.Pairwise
import RankRent.CostControls.Billing
import RankRent.CostControls.Operations

/-!
# Resolved calls in billing

A call resolved as billed is completed at the time of its resolution and keeps
the provider ids its row had. `reconcile_billing_csv` selects by the one and
matches by the other.
-/

namespace RankRent

/-- `_matches` reads the ids of the row. -/
def matchesRow (charge : ProviderCharge) (row : ApiCall) : Bool :=
  sameId charge.providerRequestId row.providerRequestId ||
    sameId charge.providerTaskId row.providerTaskId

/-- A call the provider charged for, and its row at the time of billing. -/
structure ChargedCall where
  charge : ProviderCharge
  row : ApiCall
  resolved : Bool
  deriving DecidableEq

namespace ChargedCall

def billedDay (c : ChargedCall) : Date := date c.charge.billedAt

/-- The day under which billing finds the row. -/
def day (c : ChargedCall) : Date := date (c.row.completedAt.getD 0)

/-- The row carries an id of its charge. -/
def carriesId (c : ChargedCall) : Bool := matchesRow c.charge c.row

/-- An operator resolved the call as billed, with what the provider charged. -/
def ResolvedAsBilled (c : ChargedCall) : Prop :=
  ∃ db i note at_ after,
    CostControls.resolveUnknownProviderCall db i .billed c.charge.cost note at_ = .ok after ∧
      after.calls[i]? = some c.row ∧ c.charge.billedAt ≤ at_

end ChargedCall

/-- Two charges have an id in common. -/
def sharesId (charge other : ProviderCharge) : Bool :=
  sameId charge.providerRequestId other.providerRequestId ||
    sameId charge.providerTaskId other.providerTaskId

/-- The completed calls of a provider with its true charges. A row has the ids
the provider gave the call, or none; the provider gives no id twice. -/
structure Charged (calls : List ChargedCall) (provider : String) : Prop where
  completed : ∀ c ∈ calls, c.row.provider = provider ∧ c.row.status = .completed ∧
    c.row.completedAt.isSome ∧ c.row.actualCost = c.charge.cost
  requestIds : ∀ c ∈ calls, c.row.providerRequestId = none ∨
    c.row.providerRequestId = c.charge.providerRequestId
  taskIds : ∀ c ∈ calls, c.row.providerTaskId = none ∨
    c.row.providerTaskId = c.charge.providerTaskId
  resolved : ∀ c ∈ calls, c.resolved = true → c.ResolvedAsBilled
  distinct : calls.Pairwise fun c d =>
    sharesId c.charge d.charge = false ∧ sharesId d.charge c.charge = false

/-- Every row carries an id of its charge and was completed within the billed
days; no call was billed after the day of a resolved call up to the day of its
resolution. -/
structure Reconcilable (calls : List ChargedCall) : Prop where
  carries : ∀ c ∈ calls, c.carriesId = true
  started : ∀ c ∈ calls, ∃ d ∈ calls, d.billedDay ≤ c.day
  ended : ∀ c ∈ calls, ∃ d ∈ calls, c.day ≤ d.billedDay
  undivided : ∀ c ∈ calls, c.resolved = true →
    ∀ d ∈ calls, ¬ (c.billedDay < d.billedDay ∧ d.billedDay ≤ c.day)

/-! ## Rows of a period -/

theorem date_iff {first last : Date} {t : DateTime} :
    (first : DateTime) * 86400 ≤ t ∧ t < ((last : DateTime) + 1) * 86400 ↔
      first ≤ date t ∧ date t ≤ last := by
  have day : (0 : ℚ) < 86400 := by norm_num
  rw [date, Int.le_floor, le_div_iff₀ day, ← Int.lt_add_one_iff, Int.floor_lt, div_lt_iff₀ day]
  push_cast
  rfl

/-- The row is selected for the period. -/
def completedWithin (first last : Date) (row : ApiCall) : Bool :=
  row.completedAt.any fun completedAt =>
    (first : DateTime) * 86400 ≤ completedAt && completedAt < ((last : DateTime) + 1) * 86400

theorem billedCalls_rows (calls : List ApiCall) (provider : String) (first last : Date) :
    (billedCalls calls provider first last).map BilledCall.toApiCall =
      (calls.filter fun row => row.provider = provider && row.status = .completed).filter
        (completedWithin first last) := by
  have rows : (calls.zipIdx.map fun entry => ({ entry.1 with id := entry.2 } : BilledCall)).map
      BilledCall.toApiCall = calls := by
    rw [List.map_map]
    exact List.zipIdx_map_fst 0 calls
  rw [List.filter_filter, billedCalls]
  conv_rhs => rw [← rows, List.filter_map]
  refine congrArg _ (List.filter_congr fun call _ => ?_)
  rw [Bool.and_comm]
  rfl

section Charged
variable {calls : List ChargedCall} {provider : String}

theorem Charged.completedWithin_iff (charged : Charged calls provider) {c : ChargedCall}
    (member : c ∈ calls) {first last : Date} :
    completedWithin first last c.row = true ↔ first ≤ c.day ∧ c.day ≤ last := by
  obtain ⟨-, -, some, -⟩ := charged.completed c member
  obtain ⟨t, at_⟩ := Option.isSome_iff_exists.mp some
  rw [completedWithin, ChargedCall.day, at_, Option.any_some, Bool.and_eq_true, decide_eq_true_eq,
    decide_eq_true_eq, date_iff]
  rfl

/-- The rows a reconciliation of the period loads, in some order. -/
theorem Charged.period (charged : Charged calls provider) {db : Database}
    {order : List BilledCall → List BilledCall} (reorders : ∀ rows, (order rows).Perm rows)
    (stored : (db.calls.filter fun row => row.provider = provider && row.status = .completed) =
      calls.map ChargedCall.row) (charges : List ProviderCharge) :
    ((periodCalls order db charges provider).map BilledCall.toApiCall).Perm
      ((calls.filter fun c =>
        ((charges.map fun charge => date charge.billedAt).min?.getD 0) ≤ c.day &&
          c.day ≤ ((charges.map fun charge => date charge.billedAt).max?.getD 0)).map
        ChargedCall.row) := by
  refine ((reorders _).map _).trans (List.Perm.of_eq ?_)
  rw [billedCalls_rows, stored, List.filter_map]
  refine congrArg _ (List.filter_congr fun c member => ?_)
  rw [Bool.eq_iff_iff, Function.comp_apply, charged.completedWithin_iff member, Bool.and_eq_true,
    decide_eq_true_eq, decide_eq_true_eq]

/-! ## Matching by row -/

theorem sameId_iff {charged called : Option String} :
    sameId charged called = true ↔ ∃ id, charged = some id ∧ id ≠ "" ∧ called = some id := by
  cases charged with
  | none => simp [sameId]
  | some id => simp [sameId]

theorem matchesRow_shares {c d : ChargedCall}
    (requestIds : d.row.providerRequestId = none ∨
      d.row.providerRequestId = d.charge.providerRequestId)
    (taskIds : d.row.providerTaskId = none ∨ d.row.providerTaskId = d.charge.providerTaskId)
    (matched : matchesRow c.charge d.row = true) : sharesId c.charge d.charge = true := by
  have own {charged called own : Option String} (either : called = none ∨ called = own)
      (same : sameId charged called = true) : sameId charged own = true := by
    rcases either with rfl | rfl
    · obtain ⟨id, -, -, none⟩ := sameId_iff.mp same
      cases none
    · exact same
  rw [matchesRow, Bool.or_eq_true] at matched
  rw [sharesId, Bool.or_eq_true]
  rcases matched with request | task
  · exact .inl (own requestIds request)
  · exact .inr (own taskIds task)

/-- A charge matches no row but that of its own call. -/
theorem Charged.own (charged : Charged calls provider) {c d : ChargedCall} (inCalls : c ∈ calls)
    (there : d ∈ calls) (matched : matchesRow c.charge d.row = true) : c = d := by
  by_contra other
  have shares := matchesRow_shares (charged.requestIds d there) (charged.taskIds d there) matched
  have : Std.Symm fun c d : ChargedCall =>
      sharesId c.charge d.charge = false ∧ sharesId d.charge c.charge = false :=
    ⟨fun _ _ both => both.symm⟩
  have apart := charged.distinct.forall inCalls there other
  rw [shares] at apart
  cases apart.1

/-- A call whose row carries its id is listed once. -/
theorem Charged.once (charged : Charged calls provider) {c : ChargedCall} (member : c ∈ calls)
    (carries : c.carriesId = true) : (calls.map ChargedCall.row).count c.row ≤ 1 := by
  by_contra twice
  have own : calls.countP (fun d => d.row == c.row) ≤ calls.count c := by
    refine List.countP_mono_left fun d there same => ?_
    have row : d.row = c.row := by simpa using same
    have matched : matchesRow c.charge d.row = true := row ▸ carries
    simpa using (charged.own member there matched).symm
  rw [List.count, List.countP_map] at twice
  have pair : 2 ≤ calls.count c := by
    have more : 2 ≤ calls.countP (fun d => d.row == c.row) := by
      simpa [Function.comp_def, Nat.lt_iff_add_one_le] using twice
    exact more.trans own
  have listed := (List.replicate_sublist_iff.mpr pair)
  have apart := charged.distinct.sublist listed
  have shares := matchesRow_shares (charged.requestIds c member) (charged.taskIds c member) carries
  simp [List.replicate, shares] at apart

/-- No charge takes another call's row. -/
theorem Charged.not_strands (charged : Charged calls provider) {charges : List ProviderCharge}
    {items : List BilledCall} (true_ : ∀ charge ∈ charges, ∃ c ∈ calls, c.charge = charge)
    (rows : ∀ row ∈ items.map BilledCall.toApiCall, ∃ c ∈ calls, c.row = row) :
    ¬ Matching.Strands matchesCall charges items := by
  change ¬ Matching.Strands (fun charge call => matchesRow charge (BilledCall.toApiCall call))
    charges items
  rw [← Matching.strands_map]
  refine Matching.not_strands_of_unique ?_
  intro charge asked row member other member' matched matched'
  obtain ⟨c, inCalls, rfl⟩ := true_ charge asked
  obtain ⟨d, there, rfl⟩ := rows row member
  obtain ⟨e, there', rfl⟩ := rows other member'
  rw [← charged.own inCalls there matched, ← charged.own inCalls there' matched']

/-! ## The whole export -/

theorem Charged.perfect_iff (charged : Charged calls provider) (inside : ChargedCall → Bool) :
    Matching.Perfect matchesRow (calls.map ChargedCall.charge)
        ((calls.filter inside).map ChargedCall.row) ↔
      ∀ c ∈ calls, c.carriesId = true ∧ inside c = true := by
  rw [Matching.Perfect, ← Multiset.map_coe, ← Multiset.map_coe, Multiset.rel_map]
  constructor
  · intro perfect
    have size : calls.length = (calls.filter inside).length := by
      simpa using Multiset.card_eq_card_of_rel perfect
    have all := List.length_filter_eq_length_iff.mp size.symm
    intro c member
    obtain ⟨d, there, matched⟩ := Multiset.exists_mem_of_rel_of_mem perfect member
    have inCalls : d ∈ calls := (List.mem_filter.mp there).1
    obtain rfl := charged.own member inCalls matched
    exact ⟨matched, all c member⟩
  · intro all
    rw [List.filter_eq_self.mpr fun c member => (all c member).2]
    exact Multiset.rel_refl_of_refl_on fun c member => (all c member).1

theorem costDifference_zero {charges : List ProviderCharge} {items : List BilledCall}
    (same : (items.map (·.actualCost)).sum = (charges.map ProviderCharge.cost).sum) :
    costDifference charges items = 0 := by
  rw [costDifference, providerCost, internalCost, same, sub_self]
  exact PyString.rounded_of_whole (n := 0) (by simp)

section Export
variable {db : Database} {order : List BilledCall → List BilledCall}
  {charges : List ProviderCharge}

/-- The export of every charge is clean exactly when every row carries its id
and was completed within the billed days. -/
theorem Charged.clean_iff (charged : Charged calls provider)
    (reorders : ∀ rows, (order rows).Perm rows)
    (stored : (db.calls.filter fun row => row.provider = provider && row.status = .completed) =
      calls.map ChargedCall.row)
    (listed : charges.Perm (calls.map ChargedCall.charge)) (tolerance : Usd)
    (nonneg : 0 ≤ tolerance) :
    Reconciled charges (periodCalls order db charges provider) tolerance ∧
        ¬ Matching.Strands matchesCall charges (periodCalls order db charges provider) ↔
      ∀ c ∈ calls, c.carriesId = true ∧
        (((charges.map fun charge => date charge.billedAt).min?.getD 0) ≤ c.day &&
          c.day ≤ ((charges.map fun charge => date charge.billedAt).max?.getD 0)) = true := by
  have period := charged.period reorders stored charges
  have pairs : Matching.Perfect matchesCall charges (periodCalls order db charges provider) ↔
      ∀ c ∈ calls, c.carriesId = true ∧
        (((charges.map fun charge => date charge.billedAt).min?.getD 0) ≤ c.day &&
          c.day ≤ ((charges.map fun charge => date charge.billedAt).max?.getD 0)) = true := by
    rw [← charged.perfect_iff, ← Matching.Perfect.perm listed period, Matching.perfect_map]
    rfl
  rw [Reconciled, pairs]
  constructor
  · intro both
    exact both.1.1
  · intro all
    refine ⟨⟨all, ?_⟩, ?_⟩
    · have same : ((periodCalls order db charges provider).map (·.actualCost)).sum =
          (charges.map ProviderCharge.cost).sum := by
        rw [List.filter_eq_self.mpr fun c member => (all c member).2] at period
        have costs : (calls.map ChargedCall.row).map ApiCall.actualCost =
            (calls.map ChargedCall.charge).map ProviderCharge.cost := by
          rw [List.map_map, List.map_map]
          exact List.map_congr_left fun c member => (charged.completed c member).2.2.2
        calc ((periodCalls order db charges provider).map (·.actualCost)).sum
            = (((periodCalls order db charges provider).map BilledCall.toApiCall).map
                ApiCall.actualCost).sum := by rw [List.map_map]; rfl
          _ = ((calls.map ChargedCall.row).map ApiCall.actualCost).sum := (period.map _).sum_eq
          _ = (charges.map ProviderCharge.cost).sum := by rw [costs, (listed.map _).sum_eq]
      rw [costDifference_zero same, abs_zero]
      exact nonneg
    · refine charged.not_strands ?_ ?_
      · intro charge asked
        exact List.mem_map.mp (listed.subset asked)
      · intro row member
        obtain ⟨c, inside, rfl⟩ := List.mem_map.mp (period.subset member)
        exact ⟨c, (List.mem_filter.mp inside).1, rfl⟩

end Export

/-! ## Exports of some days -/

theorem min_day {days : List Date} (some : days ≠ []) :
    days.min?.getD 0 ∈ days ∧ ∀ day ∈ days, days.min?.getD 0 ≤ day := by
  cases found : days.min? with
  | none => exact absurd (List.min?_eq_none_iff.mp found) some
  | some day => exact List.min?_eq_some_iff.mp found

theorem max_day {days : List Date} (some : days ≠ []) :
    days.max?.getD 0 ∈ days ∧ ∀ day ∈ days, day ≤ days.max?.getD 0 := by
  cases found : days.max? with
  | none => exact absurd (List.max?_eq_none_iff.mp found) some
  | some day => exact List.max?_eq_some_iff.mp found

/-- The true charges billed on the days from `first` to `last`. -/
def ExportOf (calls : List ChargedCall) (first last : Date) (charges : List ProviderCharge) :
    Prop :=
  charges.Perm ((calls.filter fun c => first ≤ c.billedDay && c.billedDay ≤ last).map
    ChargedCall.charge)

theorem ExportOf.mem_iff {first last : Date} {charges : List ProviderCharge}
    (listed : ExportOf calls first last charges) {charge : ProviderCharge} :
    charge ∈ charges ↔
      ∃ c ∈ calls, (first ≤ c.billedDay ∧ c.billedDay ≤ last) ∧ c.charge = charge := by
  rw [List.Perm.mem_iff listed, List.mem_map]
  simp [and_assoc]

/-- The first and the last billed day of an export are days of its charges. -/
theorem ExportOf.days {first last : Date} {charges : List ProviderCharge}
    (listed : ExportOf calls first last charges) (some : charges ≠ []) :
    let days := charges.map fun charge => date charge.billedAt
    (∃ c ∈ calls, (first ≤ c.billedDay ∧ c.billedDay ≤ last) ∧ c.billedDay = days.min?.getD 0) ∧
      (∃ c ∈ calls, (first ≤ c.billedDay ∧ c.billedDay ≤ last) ∧ c.billedDay = days.max?.getD 0) ∧
      ∀ c ∈ calls, first ≤ c.billedDay → c.billedDay ≤ last →
        days.min?.getD 0 ≤ c.billedDay ∧ c.billedDay ≤ days.max?.getD 0 := by
  intro days
  have nonempty : days ≠ [] := by simpa [days] using some
  have of_day {day : Date} (member : day ∈ days) :
      ∃ c ∈ calls, (first ≤ c.billedDay ∧ c.billedDay ≤ last) ∧ c.billedDay = day := by
    obtain ⟨charge, asked, rfl⟩ := List.mem_map.mp member
    obtain ⟨c, inCalls, within, rfl⟩ := listed.mem_iff.mp asked
    exact ⟨c, inCalls, within, rfl⟩
  refine ⟨of_day (min_day nonempty).1, of_day (max_day nonempty).1, ?_⟩
  intro c member after before
  have day : c.billedDay ∈ days :=
    List.mem_map.mpr ⟨c.charge, listed.mem_iff.mpr ⟨c, member, ⟨after, before⟩, rfl⟩, rfl⟩
  exact ⟨(min_day nonempty).2 _ day, (max_day nonempty).2 _ day⟩

section Report
variable {db : Database} {order : List BilledCall → List BilledCall}
  {charges : List ProviderCharge} {environment : ApiEnvironment} {tolerance : Usd}
  {now : DateTime} {sourceFilename : String} {db' : Database} {report : ReconciliationReport}

/-- A row is reported as unmatched when the loop leaves it. -/
theorem unmatched_row_iff (reorders : ∀ rows, (order rows).Perm rows)
    (ran : reconcileBillingCsv order db charges provider environment tolerance now sourceFilename =
      .ok (db', report)) (row : ApiCall) :
    (∃ call ∈ report.unmatchedInternalCalls, call.toApiCall = row) ↔
      row ∈ (Matching.greedy matchesRow charges
        ((periodCalls order db charges provider).map BilledCall.toApiCall)).2 := by
  unfold reconcileBillingCsv at ran
  split at ran
  · cases ran
  · cases ran
    rw [Matching.greedy_map]
    dsimp only
    rw [unmatched, unmatched_eq_greedy charges [] (periodCalls_unique reorders db charges provider)]
    exact List.mem_map.symm

theorem ChargedCall.ResolvedAsBilled.billed_before {c : ChargedCall}
    (resolved : c.ResolvedAsBilled) : c.billedDay ≤ c.day := by
  obtain ⟨db, i, note, at_, after, ok, found, before⟩ := resolved
  have completed : c.row.completedAt = some at_ := by
    unfold CostControls.resolveUnknownProviderCall at ok
    split at ok
    · cases ok
    · split at ok
      · cases ok
      · rename_i row there
        split at ok
        · cases ok
          have same (posted : Database) (calls : posted.calls = db.calls) :
              posted.calls[i]? = some row := by rw [calls, there]
          rw [Database.putCall_none (same _ (by split <;> rfl))] at found
          have bound : i < db.calls.length := (List.getElem?_eq_some_iff.mp there).1
          have written : some (row.resolve .billed c.charge.cost note at_) = some c.row := by
            rw [← found]
            split <;> exact (List.getElem?_set_self bound).symm
          rw [← Option.some.inj written]
          rfl
        · cases ok
  rw [ChargedCall.billedDay, ChargedCall.day, completed, date, date]
  exact Int.floor_le_floor (div_le_div_of_nonneg_right before (by norm_num))

end Report

/-- The whole export is one of all billed days. -/
theorem whole_export {charges : List ProviderCharge}
    (listed : charges.Perm (calls.map ChargedCall.charge)) :
    ∃ first last, ExportOf calls first last charges := by
  by_cases some : calls.map ChargedCall.billedDay = []
  · have none : calls = [] := List.map_eq_nil_iff.mp some
    subst none
    exact ⟨0, 0, listed⟩
  · refine ⟨(calls.map ChargedCall.billedDay).min?.getD 0,
      (calls.map ChargedCall.billedDay).max?.getD 0, listed.trans (List.Perm.of_eq ?_)⟩
    rw [List.filter_eq_self.mpr fun c member => ?_]
    have day := List.mem_map_of_mem (f := ChargedCall.billedDay) member
    simp [(min_day some).2 _ day, (max_day some).2 _ day]

/-- The whole export is clean and no export of some days leaves a resolved call
unmatched, exactly when the calls are `Reconcilable`. -/
theorem resolved_calls_reconcile_iff (order : List BilledCall → List BilledCall)
    (reorders : ∀ rows, (order rows).Perm rows) (db : Database) (calls : List ChargedCall)
    (some : calls ≠ []) (provider : String) (charged : Charged calls provider)
    (stored : (db.calls.filter fun row => row.provider = provider && row.status = .completed) =
      calls.map ChargedCall.row)
    (environment : ApiEnvironment) (tolerance : Usd) (nonneg : 0 ≤ tolerance) (now : DateTime)
    (sourceFilename : String) :
    ((∀ charges, charges.Perm (calls.map ChargedCall.charge) →
        ∃ db' report, reconcileBillingCsv order db charges provider environment tolerance now
            sourceFilename = .ok (db', report) ∧ report.status = "clean") ∧
      ∀ first last charges, charges ≠ [] → ExportOf calls first last charges →
        ∀ db' report, reconcileBillingCsv order db charges provider environment tolerance now
            sourceFilename = .ok (db', report) →
          ∀ c ∈ calls, c.resolved = true →
            ∀ call ∈ report.unmatchedInternalCalls, call.toApiCall ≠ c.row) ↔
      Reconcilable calls := by
  have all_charges (charges : List ProviderCharge)
      (listed : charges.Perm (calls.map ChargedCall.charge)) : charges ≠ [] := by
    rintro rfl
    exact some (List.map_eq_nil_iff.mp listed.nil_eq.symm)
  have clean (charges : List ProviderCharge)
      (listed : charges.Perm (calls.map ChargedCall.charge)) :
      (∃ db' report, reconcileBillingCsv order db charges provider environment tolerance now
          sourceFilename = .ok (db', report) ∧ report.status = "clean") ↔
        ∀ c ∈ calls, c.carriesId = true ∧
          (((charges.map fun charge => date charge.billedAt).min?.getD 0) ≤ c.day &&
            c.day ≤ ((charges.map fun charge => date charge.billedAt).max?.getD 0)) = true := by
    obtain ⟨db', report, ran, status⟩ := reconcile_status reorders db (all_charges charges listed)
      provider environment tolerance now sourceFilename
    rw [← charged.clean_iff reorders stored listed tolerance nonneg, ← status]
    constructor
    · rintro ⟨db'', report', ran', verdict⟩
      cases ran.symm.trans ran'
      exact verdict
    · intro verdict
      exact ⟨db', report, ran, verdict⟩
  constructor
  · rintro ⟨whole, parts⟩
    have listed := List.Perm.refl (calls.map ChargedCall.charge)
    have good := (clean _ listed).mp (whole _ listed)
    simp only [Bool.and_eq_true, decide_eq_true_eq] at good
    obtain ⟨first, last, everything⟩ := whole_export listed
    obtain ⟨⟨f, inCalls, -, earliest⟩, ⟨g, inCalls', -, latest⟩, -⟩ :=
      everything.days (all_charges _ listed)
    have started : ∀ c ∈ calls, f.billedDay ≤ c.day := fun c member => earliest ▸ (good c member).2.1
    have ended : ∀ c ∈ calls, c.day ≤ g.billedDay := fun c member => latest ▸ (good c member).2.2
    refine ⟨fun c member => (good c member).1, fun c member => ⟨f, inCalls, started c member⟩,
      fun c member => ⟨g, inCalls', ended c member⟩, ?_⟩
    rintro c member resolved d there ⟨later, within⟩
    -- the export from the day of `d` on leaves `c` out and has its row in the period
    have split : ExportOf calls d.billedDay g.billedDay ((calls.filter fun c =>
        d.billedDay ≤ c.billedDay && c.billedDay ≤ g.billedDay).map ChargedCall.charge) :=
      List.Perm.refl _
    have beforeEnd : d.billedDay ≤ g.billedDay := within.trans (ended c member)
    have nonempty := List.ne_nil_of_mem
      (split.mem_iff.mpr ⟨d, there, ⟨le_refl _, beforeEnd⟩, rfl⟩)
    obtain ⟨-, -, bounds⟩ := split.days nonempty
    obtain ⟨db', report, ran, -⟩ := reconcile_status reorders db nonempty provider environment
      tolerance now sourceFilename
    have selected := (charged.period reorders stored _).mem_iff.mpr (List.mem_map_of_mem
      (f := ChargedCall.row) (List.mem_filter.mpr ⟨member, by
        simp only [Bool.and_eq_true, decide_eq_true_eq]
        exact ⟨(bounds d there (le_refl _) beforeEnd).1.trans within,
          (ended c member).trans (bounds g inCalls' beforeEnd (le_refl _)).2⟩⟩))
    have refused : ∀ charge ∈ (calls.filter fun c => d.billedDay ≤ c.billedDay &&
        c.billedDay ≤ g.billedDay).map ChargedCall.charge, matchesRow charge c.row = false := by
      intro charge asked
      obtain ⟨e, inCalls, ⟨after, -⟩, rfl⟩ := split.mem_iff.mp asked
      by_contra matched
      have same := charged.own inCalls member (by simpa using matched)
      rw [same] at after
      exact absurd later (not_lt.mpr after)
    have left := Matching.mem_left_of_refused selected refused
    obtain ⟨call, unmatched, row⟩ := (unmatched_row_iff reorders ran c.row).mpr left
    exact parts _ _ _ nonempty split db' report ran c member resolved call unmatched row
  · intro reconcilable
    constructor
    · intro charges listed
      obtain ⟨first, last, everything⟩ := whole_export listed
      obtain ⟨⟨f, -, within, earliest⟩, ⟨g, -, within', latest⟩, bounds⟩ :=
        everything.days (all_charges _ listed)
      refine (clean charges listed).mpr fun c member => ⟨reconcilable.carries c member, ?_⟩
      obtain ⟨d, there, after⟩ := reconcilable.started c member
      obtain ⟨e, there', before⟩ := reconcilable.ended c member
      have inside {d : ChargedCall} (there : d ∈ calls) :
          first ≤ d.billedDay ∧ d.billedDay ≤ last := by
        obtain ⟨_, _, within, same⟩ := everything.mem_iff.mp
          (listed.mem_iff.mpr (List.mem_map_of_mem (f := ChargedCall.charge) there))
        rw [ChargedCall.billedDay, ← same]
        exact within
      have low := (bounds d there (inside there).1 (inside there).2).1
      have high := (bounds e there' (inside there').1 (inside there').2).2
      simp only [Bool.and_eq_true, decide_eq_true_eq]
      exact ⟨low.trans after, before.trans high⟩
    · intro first last charges nonempty listed db' report ran c member resolved call unmatched row
      have left := (unmatched_row_iff reorders ran c.row).mp ⟨call, unmatched, row⟩
      have period := charged.period reorders stored charges
      have carries := reconcilable.carries c member
      obtain ⟨d, found, same⟩ :=
        List.mem_map.mp (period.mem_iff.mp (Matching.left_subset _ _ left))
      obtain ⟨there, bounds⟩ := List.mem_filter.mp found
      obtain rfl := charged.own member there (same ▸ carries)
      simp only [Bool.and_eq_true, decide_eq_true_eq] at bounds
      obtain ⟨⟨f, inCalls, ⟨after, -⟩, earliest⟩, ⟨g, -, ⟨-, before⟩, latest⟩, -⟩ :=
        listed.days nonempty
      have undivided := reconcilable.undivided c member resolved f inCalls
      have billed := (charged.resolved c member resolved).billed_before
      by_cases inside : first ≤ c.billedDay ∧ c.billedDay ≤ last
      · refine Matching.not_mem_left (listed.mem_iff.mpr ⟨c, member, inside, rfl⟩) carries ?_ ?_ left
        · intro other there matched
          obtain ⟨e, selected, rfl⟩ := List.mem_map.mp (period.mem_iff.mp there)
          rw [charged.own member (List.mem_filter.mp selected).1 matched]
        · rw [period.count_eq]
          exact ((List.filter_sublist.map _).count_le _).trans (charged.once member carries)
      · rcases not_and_or.mp inside with early | late
        · exact undivided ⟨(not_le.mp early).trans_le after, earliest ▸ bounds.1⟩
        · have passed := (billed.trans bounds.2).trans (latest ▸ before)
          exact late passed

end Charged

/-! ## A call that timed out -/

namespace TimedOut

def charge : ProviderCharge := ⟨Option.some "req-1", Option.some "task-1", "/v3/serp", 1 / 4, 30⟩

/-- The row of a call whose answer never came, with the ids a session left on it. -/
def unknown (requestId : Option String) : ApiCall :=
  { SharedTask.call "req-1" with
    providerTaskId := none
    providerRequestId := requestId
    actualCost := 0
    status := .providerOutcomeUnknown
    attemptState := .providerOutcomeUnknown
    providerOutcome := .unknown
    reservationState := .reconciledUnknown }

/-- Resolved with the charged cost. -/
def resolved (requestId : Option String) (at_ : DateTime) : ChargedCall where
  charge := charge
  row := (unknown requestId).resolve .billed (1 / 4) "Export row 1" at_
  resolved := true

def db (requestId : Option String) (at_ : DateTime) : Database :=
  ⟨[], [(resolved requestId at_).row], [], [], []⟩

theorem resolvedAsBilled (requestId : Option String) {at_ : DateTime} (later : 30 ≤ at_) :
    (resolved requestId at_).ResolvedAsBilled := by
  refine ⟨⟨[], [unknown requestId], [], [], []⟩, 0, "Export row 1", at_, db requestId at_, ?_,
    rfl, later⟩
  have checks : CostControls.raiseFirst
      [(decide (charge.cost < 0), .valueError "actual_cost_usd cannot be negative."),
       (decide (PyString.strip "Export row 1" = ""),
         .valueError "An auditable resolution note is required.")] = .ok () := by decide +kernel
  have there : (⟨[], [unknown requestId], [], [], []⟩ : Database).calls[0]? =
      Option.some (unknown requestId) := rfl
  have awaits : (unknown requestId).awaitsOutcome = true := rfl
  rw [CostControls.resolveUnknownProviderCall, resolved, checks]
  dsimp only
  rw [there]
  dsimp only
  rw [if_pos awaits]
  exact congrArg Except.ok (Database.putCall_none there _)

/-- The call of an empty session, or of one that had the request id. -/
theorem charged {requestId : Option String} (own : requestId = none ∨ requestId = Option.some "req-1")
    {at_ : DateTime} (later : 30 ≤ at_) : Charged [resolved requestId at_] "dataforseo-live" where
  completed := by
    intro c member
    obtain rfl := List.mem_singleton.mp member
    exact ⟨rfl, rfl, rfl, rfl⟩
  requestIds := by
    intro c member
    obtain rfl := List.mem_singleton.mp member
    exact own
  taskIds := by
    intro c member
    obtain rfl := List.mem_singleton.mp member
    exact .inl rfl
  resolved := by
    intro c member _
    obtain rfl := List.mem_singleton.mp member
    exact resolvedAsBilled requestId later
  distinct := List.pairwise_singleton ..

end TimedOut

/-- A row that had its id already, resolved on the day of the charge. -/
theorem resolved_with_id_reconciles :
    (∀ charges, charges.Perm [TimedOut.charge] →
        ∃ db' report, reconcileBillingCsv id (TimedOut.db (some "req-1") 60) charges
            "dataforseo-live" .production (1 / 100) 100 "billing.csv" = .ok (db', report) ∧
          report.status = "clean") ∧
      ∀ first last charges, charges ≠ [] →
        ExportOf [TimedOut.resolved (some "req-1") 60] first last charges →
        ∀ db' report, reconcileBillingCsv id (TimedOut.db (some "req-1") 60) charges
            "dataforseo-live" .production (1 / 100) 100 "billing.csv" = .ok (db', report) →
          ∀ c ∈ [TimedOut.resolved (some "req-1") 60], c.resolved = true →
            ∀ call ∈ report.unmatchedInternalCalls, call.toApiCall ≠ c.row := by
  have same : (TimedOut.resolved (some "req-1") 60).day =
      (TimedOut.resolved (some "req-1") 60).billedDay := by decide +kernel
  refine (resolved_calls_reconcile_iff id (fun _ => List.Perm.refl _) (TimedOut.db (some "req-1") 60)
    [TimedOut.resolved (some "req-1") 60] (by decide) "dataforseo-live"
    (TimedOut.charged (.inr rfl) (by norm_num)) rfl .production (1 / 100) (by norm_num) 100
    "billing.csv").mpr ⟨?_, ?_, ?_, ?_⟩
  · intro c member
    obtain rfl := List.mem_singleton.mp member
    decide +kernel
  · intro c member
    obtain rfl := List.mem_singleton.mp member
    exact ⟨_, List.mem_singleton_self _, same.ge⟩
  · intro c member
    obtain rfl := List.mem_singleton.mp member
    exact ⟨_, List.mem_singleton_self _, same.le⟩
  · intro c member _ d there
    obtain rfl := List.mem_singleton.mp member
    obtain rfl := List.mem_singleton.mp there
    exact fun both => lt_irrefl _ both.1

/-- The one charge of a call resolved a day later finds no row; the row stays
unmatched on the day of its resolution. -/
theorem resolved_call_unreconciled :
    ¬ ∀ (calls : List ChargedCall) (db : Database) (provider : String), calls ≠ [] →
      Charged calls provider →
      (db.calls.filter fun row => row.provider = provider && row.status = .completed) =
        calls.map ChargedCall.row →
      ∃ db' report, reconcileBillingCsv id db (calls.map ChargedCall.charge) provider .production
          (1 / 100) 200000 "billing.csv" = .ok (db', report) ∧ report.status = "clean" := by
  intro all
  obtain ⟨db', report, ran, clean⟩ := all [TimedOut.resolved none 100000]
    (TimedOut.db none 100000) "dataforseo-live" (by decide)
    (TimedOut.charged (.inl rfl) (by norm_num)) rfl
  have verdict : (reconcileBillingCsv id (TimedOut.db none 100000)
      ([TimedOut.resolved none 100000].map ChargedCall.charge) "dataforseo-live" .production
      (1 / 100) 200000 "billing.csv").map (fun ran => ran.2.status) = .ok "mismatch" := by
    decide +kernel
  rw [ran] at verdict
  have mismatch : report.status = "mismatch" := Except.ok.inj verdict
  rw [clean] at mismatch
  exact absurd mismatch (by decide)

end RankRent
