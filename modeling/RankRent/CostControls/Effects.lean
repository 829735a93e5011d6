import RankRent.CostControls.Buckets

/-!
# What each operation can do

One case lemma for each operation of the paid-call policy, guards included.
-/

namespace RankRent.CostControls

/-- The lease part of a reservation or submission passed. -/
def LeaseHeld (db : Database) (lease : Option ScanExecutionLease) (now : DateTime) : Prop :=
  ∀ l, lease = some l → assertCurrentScanLease db.scans l now = .ok ()

theorem leaseChecks_pass {db : Database} {lease : Option ScanExecutionLease} {now : DateTime} :
    (∀ check ∈ leaseChecks db lease now, check.1 = false) ↔ LeaseHeld db lease now := by
  cases lease with
  | none => simp [leaseChecks, LeaseHeld]
  | some l =>
    cases held : assertCurrentScanLease db.scans l now with
    | ok u => simp [leaseChecks, LeaseHeld, held]
    | error lost => simp [leaseChecks, LeaseHeld, held]

/-- The row a reservation or submission is made for exists, in the state its
session sees it in. -/
def Sees (db : Database) (seen : Option ApiCall) (apiCallId : Option Nat)
    (P : Nat → ApiCall → Prop) : Prop :=
  ∀ i, apiCallId = some i → ∃ row, db.getCall seen i = some row ∧ P i row

theorem eligibilityChecks_pass {db : Database} {seen : Option ApiCall} {id : Option Nat} :
    (∀ check ∈ eligibilityChecks db seen id, check.1 = false) ↔
      Sees db seen id fun _ row => row.reservationState = .none ∧ row.attemptState = .prepared := by
  cases id with
  | none => simp [eligibilityChecks, Sees]
  | some i =>
    cases found : db.getCall seen i with
    | none => simp [eligibilityChecks, Sees, found]
    | some row => simp [eligibilityChecks, Sees, found]

/-- The bucket part of a reservation: the limits it was checked against. -/
structure WithinLimits (settings : Settings) (summary : ProviderDailyUsage) (q : ReserveRequest) :
    Prop where
  requests : usageClass q.environment = .production →
    summary.requestCount < settings.productionDailyRequestLimit
  production : usageClass q.environment = .production →
    summary.committed + q.estimatedCost ≤ settings.productionDailySpend
  testing : usageClass q.environment = .testing →
    summary.committed + q.estimatedCost ≤ settings.testingDailySpend

theorem withinLimits_of_pass {settings : Settings} {db : Database} {summary : ProviderDailyUsage}
    {q : ReserveRequest}
    (pass : ∀ check ∈ assertDurableBreakers settings db summary q, check.1 = false) :
    WithinLimits settings summary q := by
  simp only [assertDurableBreakers, List.mem_cons, List.not_mem_nil, or_false, forall_eq_or_imp,
    forall_eq, Bool.and_eq_false_iff, decide_eq_false_iff_not, Bool.not_eq_false',
    decide_eq_true_eq, not_le, not_lt] at pass
  obtain ⟨requests, production, testing, -⟩ := pass
  refine ⟨fun class_ => ?_, fun class_ => ?_, fun class_ => ?_⟩
  · exact requests.resolve_left (fun differs => differs class_)
  · exact production.resolve_left (fun differs => differs class_)
  · exact testing.resolve_left (fun same => by rw [class_] at same; cases same)

/-- The usage after a reservation was granted. -/
def grantedUsage (db : Database) (q : ReserveRequest) : Database :=
  postUsage (postUsage db (date q.now) (usageClass q.environment) q.provider q.endpoint id)
    (date q.now) (usageClass q.environment) q.provider q.endpoint
    (reserveUsage q.estimatedCost q.cacheMiss)

/-- The usage after the buckets were locked and a breaker raised. -/
def lockedUsage (db : Database) (q : ReserveRequest) : Database :=
  postUsage db (date q.now) (usageClass q.environment) q.provider q.endpoint id

/-- A reservation is refused, leaving at most empty buckets behind, or granted
in full. -/
theorem reserveProviderCall_cases (settings : Settings) (db : Database) (seen : Option ApiCall)
    (q : ReserveRequest) :
    (∃ e, reserveProviderCall settings db seen q = (.error e, db)) ∨
    (∃ e, reserveProviderCall settings db seen q = (.error e, lockedUsage db q)) ∨
    (LeaseHeld db q.executionLease q.now ∧
      (Sees db seen q.apiCallId fun _ row =>
        row.reservationState = .none ∧ row.attemptState = .prepared) ∧
      WithinLimits settings (lockedBucket (lockedUsage db q).usage
        ⟨date q.now, usageClass q.environment, q.provider, ""⟩) q ∧
      reserveProviderCall settings db seen q =
        (.ok ⟨date q.now, usageClass q.environment, q.provider, q.endpoint, q.estimatedCost,
          q.apiCallId⟩, reserveRow (grantedUsage db q) seen q)) := by
  unfold reserveProviderCall
  cases admitted : raiseFirst (leaseChecks db q.executionLease q.now ++
      assertSwitches settings q.environment q.scanProfile ++
      [abnormalCostCheck settings q.estimatedCost] ++
      eligibilityChecks db seen q.apiCallId) with
  | error e => exact Or.inl ⟨e, rfl⟩
  | ok u =>
    have pass := raiseFirst_ok.mp admitted
    have lease := leaseChecks_pass.mp fun check member =>
      pass check (List.mem_append_left _ (List.mem_append_left _ (List.mem_append_left _ member)))
    have eligible := eligibilityChecks_pass.mp fun check member =>
      pass check (List.mem_append_right _ member)
    simp only
    cases breakers : raiseFirst (assertDurableBreakers settings (lockedUsage db q)
        (lockedBucket (lockedUsage db q).usage
          ⟨date q.now, usageClass q.environment, q.provider, ""⟩) q) with
    | error e =>
      refine Or.inr (Or.inl ⟨e, ?_⟩)
      simp only [lockedUsage] at breakers ⊢
      rw [breakers]
    | ok u =>
      have limits := withinLimits_of_pass (raiseFirst_ok.mp breakers)
      refine Or.inr (Or.inr ⟨lease, eligible, limits, ?_⟩)
      simp only [lockedUsage] at breakers
      rw [breakers]
      rfl

/-- A submission writes the row its session sees as reserved, under a held
lease. -/
theorem markProviderCallSubmitted_ok {db db' : Database} {seen : Option ApiCall}
    {reservation : UsageReservation} {lease : Option ScanExecutionLease} {now : DateTime}
    (h : markProviderCallSubmitted db seen reservation lease now = .ok db') :
    LeaseHeld db lease now ∧
      (reservation.apiCallId = none ∧ db' = db ∨
        ∃ i row, reservation.apiCallId = some i ∧ db.getCall seen i = some row ∧
          row.reservationState = .reserved ∧ row.attemptState = .reserved ∧
          db' = db.putCall seen i (row.submit now)) := by
  unfold markProviderCallSubmitted at h
  cases checked : raiseFirst (leaseChecks db lease now) with
  | error e => rw [checked] at h; cases h
  | ok u =>
    rw [checked] at h
    refine ⟨leaseChecks_pass.mp (raiseFirst_ok.mp checked), ?_⟩
    cases target : reservation.apiCallId with
    | none =>
      simp only [target, Except.ok.injEq] at h
      exact Or.inl ⟨rfl, h.symm⟩
    | some i =>
      simp only [target] at h
      cases found : db.getCall seen i with
      | none => simp only [found] at h; cases h
      | some row =>
        simp only [found] at h
        split at h
        · cases h
        · rename_i ready
          simp only [ne_eq, not_or, Decidable.not_not] at ready
          simp only [Except.ok.injEq] at h
          exact Or.inr ⟨i, row, rfl, found, ready.1, ready.2, h.symm⟩

/-- A completion of a row's reservation: nothing when the session sees it
closed, else one posting and the settled row. -/
theorem finishProviderCall_eq {db : Database} {seen : Option ApiCall} {r : UsageReservation}
    {i : Nat} {row : ApiCall} (target : r.apiCallId = some i) (found : db.getCall seen i = some row)
    (q : FinishRequest) :
    finishProviderCall db seen r q =
      if row.reservationState.closed then db
      else (postUsage db r.usageDate r.usageClass r.provider r.endpoint
        (finishUsage r.estimatedCost q)).putCall seen i (row.settle q.providerOutcomeUnknown q.now) := by
  simp only [finishProviderCall, target, found]

/-- An accepted resolution. -/
theorem resolveUnknownProviderCall_ok {db db' : Database} {i : Nat} {outcome : ResolvedOutcome}
    {actual : Usd} {note : String} {now : DateTime}
    (h : resolveUnknownProviderCall db i outcome actual note now = .ok db') :
    0 ≤ actual ∧ ∃ row, db.calls[i]? = some row ∧ row.awaitsOutcome = true ∧
      (row.reservationUsageDate = none ∧
          db' = db.putCall none i (row.resolve outcome actual note now) ∨
        ∃ day, row.reservationUsageDate = some day ∧
          db' = (postUsage db day (row.reservationUsageClass.getD .testing) row.provider
            row.endpoint (resolveUsage row.reservationEstimatedCost actual)).putCall none i
              (row.resolve outcome actual note now)) := by
  unfold resolveUnknownProviderCall at h
  split at h
  · cases h
  · rename_i checked
    have pass := raiseFirst_ok.mp checked
    have positive : 0 ≤ actual := by simpa using pass _ List.mem_cons_self
    refine ⟨positive, ?_⟩
    split at h
    · cases h
    · rename_i row found
      split at h
      · rename_i awaits
        simp only [Except.ok.injEq] at h
        refine ⟨row, found, awaits, ?_⟩
        cases day : row.reservationUsageDate with
        | none => simp only [day] at h; exact Or.inl ⟨rfl, h.symm⟩
        | some d => simp only [day] at h; exact Or.inr ⟨d, rfl, h.symm⟩
      · cases h

/-- One row of a stale pass: released or reconciled when it is reserved, and
closed in any case. -/
theorem reconcileAttempt_cases {db : Database} {i : Nat} {row : ApiCall}
    (found : db.calls[i]? = some row) (now : DateTime) :
    (∃ day, row.reservationState = .reserved ∧ row.reservationUsageDate = some day ∧
      reconcileAttempt now db i =
        (postUsage db day (row.reservationUsageClass.getD .testing) row.provider row.endpoint
          (releaseUsage row.reservationEstimatedCost row.maybeSent)).putCall none i
            ((row.reconcileReservation row.maybeSent now).abandon row.maybeSent now)) ∨
    ((row.reservationState = .reserved → row.reservationUsageDate = none) ∧
      reconcileAttempt now db i = db.putCall none i (row.abandon row.maybeSent now)) := by
  unfold reconcileAttempt reconcileAttemptReservation
  simp only [found]
  cases state : row.reservationState <;> cases day : row.reservationUsageDate <;> simp

/-! ## The rows of a stale pass -/

theorem staleAttempt_live {staleBefore : DateTime} {scan : Option Nat} {row : ApiCall}
    (stale : staleAttempt staleBefore scan row = true) :
    row.attemptState = .prepared ∨ row.attemptState = .reserved ∨ row.attemptState = .inFlight := by
  simp only [staleAttempt, Bool.and_eq_true, Bool.or_eq_true, decide_eq_true_eq] at stale
  exact or_assoc.mp stale.1.1

theorem mem_staleAttempts {db : Database} {staleBefore : DateTime} {scan : Option Nat} {i : Nat} :
    i ∈ staleAttempts db staleBefore scan ↔
      ∃ row, db.calls[i]? = some row ∧ staleAttempt staleBefore scan row = true := by
  simp only [staleAttempts, List.mem_filter, List.mem_range]
  constructor
  · rintro ⟨-, selected⟩
    split at selected
    · cases selected
    · exact ⟨_, ‹_›, selected⟩
  · rintro ⟨row, found, stale⟩
    exact ⟨(List.getElem?_eq_some_iff.mp found).1, by simp only [found, stale]⟩

theorem staleAttempts_nodup (db : Database) (staleBefore : DateTime) (scan : Option Nat) :
    (staleAttempts db staleBefore scan).Nodup :=
  List.nodup_range.filter _

/-- What a stale pass makes of a row it selects. -/
def abandoned (now : DateTime) (row : ApiCall) : ApiCall :=
  (match row.reservationState, row.reservationUsageDate with
    | .reserved, some _ => row.reconcileReservation row.maybeSent now
    | _, _ => row).abandon row.maybeSent now

theorem reconcileAttempt_calls (now : DateTime) (db : Database) (i : Nat) :
    (reconcileAttempt now db i).calls = db.calls.modify i (abandoned now) := by
  cases found : db.calls[i]? with
  | none =>
    have short : db.calls.length ≤ i := List.getElem?_eq_none_iff.mp found
    rw [List.modify_eq_self short]
    simp [reconcileAttempt, found]
  | some row =>
    have modified : db.calls.modify i (abandoned now) = db.calls.set i (abandoned now row) := by
      rw [List.modify_eq_set_getElem?, found]
      rfl
    rw [modified]
    rcases reconcileAttempt_cases found now with ⟨day, state, date, eq⟩ | ⟨free, eq⟩
    · have posted : (postUsage db day (row.reservationUsageClass.getD .testing) row.provider
          row.endpoint (releaseUsage row.reservationEstimatedCost row.maybeSent)).calls[i]? =
          some row := found
      rw [eq, Database.putCall_none posted]
      simp [abandoned, state, date, postUsage]
    · rw [eq, Database.putCall_none found]
      have same : abandoned now row = row.abandon row.maybeSent now := by
        unfold abandoned
        split
        · rename_i state date
          rw [free state] at date
          cases date
        · rfl
      rw [same]

/-- A stale pass changes the rows it selects and no other. -/
theorem reconcileStaleApiCallAttempts_calls (db : Database) (staleBefore : DateTime)
    (scan : Option Nat) (now : DateTime) (i : Nat) :
    (reconcileStaleApiCallAttempts db staleBefore scan now).calls[i]? =
      db.calls[i]?.map fun row =>
        if staleAttempt staleBefore scan row then abandoned now row else row := by
  have pass (ids : List Nat) (db : Database) : (ids.foldl (reconcileAttempt now) db).calls =
      ids.foldl (fun rows i => rows.modify i (abandoned now)) db.calls := by
    induction ids generalizing db with
    | nil => rfl
    | cons i rest ih => rw [List.foldl_cons, List.foldl_cons, ih, reconcileAttempt_calls]
  unfold reconcileStaleApiCallAttempts
  rw [pass, Table.foldl_modify (fun _ => abandoned now) (staleAttempts_nodup db staleBefore scan)]
  cases found : db.calls[i]? with
  | none => rfl
  | some row =>
    have selected : i ∈ staleAttempts db staleBefore scan ↔
        staleAttempt staleBefore scan row = true := by
      rw [mem_staleAttempts, found]
      simp
    simp only [Option.map_some, selected]

end RankRent.CostControls
