import RankRent.CostControls.Effects
import RankRent.Library.Runs
import RankRent.Provider.CallRows

/-!
# The spend ledger

The daily buckets against the call rows. `Exact` is what the buckets should say
of the rows; each posting of an operation, with the row update it belongs to,
keeps it as long as what is posted is what the row holds.
-/

namespace RankRent.CostControls

/-! ## What the rows say -/

/-- The row's reservation is counted in this bucket. -/
def CountsIn (row : ApiCall) (key : UsageKey) : Prop :=
  match row.reservationUsageDate with
  | none => False
  | some day => UsageKey.Touched day (row.reservationUsageClass.getD .testing) row.provider
      row.endpoint key

instance (row : ApiCall) (key : UsageKey) : Decidable (CountsIn row key) := by
  unfold CountsIn
  split <;> infer_instance

/-- What a row adds to a bucket's total over the reservation state `state`. -/
def share (state : ReservationState) (key : UsageKey) (row : ApiCall) : Usd :=
  if row.reservationState = state ∧ CountsIn row key then row.reservationEstimatedCost else 0

/-- The sum of `reservation_estimated_cost_usd` over the calls in a reservation
state that belong to a bucket. -/
def held (calls : List ApiCall) (state : ReservationState) (key : UsageKey) : Usd :=
  (calls.map (share state key)).sum

/-- The quantities the summary bucket shares with the endpoint buckets. -/
def quantities : List (ProviderDailyUsage → ℚ) :=
  [fun b => b.requestCount, fun b => b.reservedSpend, fun b => b.spend, fun b => b.unreconciledSpend]

/-- The buckets agree with the rows and the summaries with their endpoints. -/
structure Exact (db : Database) : Prop where
  reserved : ∀ key, (lockedBucket db.usage key).reservedSpend = held db.calls .reserved key
  unreconciled : ∀ key,
    (lockedBucket db.usage key).unreconciledSpend = held db.calls .reconciledUnknown key
  summary : ∀ day cls provider, ∀ w ∈ quantities,
    w (lockedBucket db.usage ⟨day, cls, provider, ""⟩) = endpointTotal db.usage day cls provider w

/-- A row as the operations leave it. -/
structure RowValid (row : ApiCall) : Prop where
  endpoint : row.endpoint ≠ ""
  estimate : 0 ≤ row.reservationEstimatedCost
  unreserved : row.reservationState = .none → row.reservationUsageDate = none
  reserved : row.reservationState = .reserved →
    row.reservationUsageDate.isSome ∧ (row.attemptState = .reserved ∨ row.attemptState = .inFlight)
  unknown : row.reservationState = .reconciledUnknown →
    row.status = .providerOutcomeUnknown ∧ row.attemptState = .providerOutcomeUnknown
  live : row.attemptState = .prepared ∨ row.attemptState = .reserved ∨
    row.attemptState = .inFlight → row.status.retryable = false

def RowsValid (calls : List ApiCall) : Prop := ∀ row ∈ calls, RowValid row

theorem RowsValid.get {calls : List ApiCall} (valid : RowsValid calls) {i : Nat} {row : ApiCall}
    (found : calls[i]? = some row) : RowValid row :=
  valid row (List.mem_of_getElem? found)

theorem RowsValid.set {calls : List ApiCall} (valid : RowsValid calls) {row : ApiCall}
    (ok : RowValid row) (i : Nat) : RowsValid (calls.set i row) := by
  intro r member
  rcases List.mem_or_eq_of_mem_set member with member | rfl
  · exact valid r member
  · exact ok

theorem share_nonneg {calls : List ApiCall} (valid : RowsValid calls) (state : ReservationState)
    (key : UsageKey) : ∀ row ∈ calls, 0 ≤ share state key row := by
  intro row member
  unfold share
  split
  · exact (valid row member).estimate
  · exact le_refl 0

theorem share_of_state_ne {state : ReservationState} (row : ApiCall) (key : UsageKey)
    (h : row.reservationState ≠ state) : share state key row = 0 := by simp [share, h]

theorem share_of_date (row : ApiCall) {day : Date} (date : row.reservationUsageDate = some day)
    (key : UsageKey) :
    share row.reservationState key row =
      if UsageKey.Touched day (row.reservationUsageClass.getD .testing) row.provider row.endpoint key
      then row.reservationEstimatedCost else 0 := by
  simp [share, CountsIn, date]

/-- What a row holds in a bucket is in the bucket. -/
theorem Exact.covered {db : Database} (exact : Exact db) (valid : RowsValid db.calls) {i : Nat}
    {row : ApiCall} (found : db.calls[i]? = some row) (key : UsageKey) :
    share .reserved key row ≤ (lockedBucket db.usage key).reservedSpend ∧
      share .reconciledUnknown key row ≤ (lockedBucket db.usage key).unreconciledSpend := by
  rw [exact.reserved key, exact.unreconciled key]
  exact ⟨Table.weight_le_sum _ found (share_nonneg valid _ key),
    Table.weight_le_sum _ found (share_nonneg valid _ key)⟩

/-! ## One posting -/

/-- The amounts a posting moves in every bucket it touches. -/
structure Moves (usage : List ProviderDailyUsage) (day : Date) (cls : UsageClass)
    (provider endpoint : String) (change : ProviderDailyUsage → ProviderDailyUsage)
    (dn : ℚ) (dr ds du : Usd) : Prop where
  keeps : KeepsKey change
  named : endpoint ≠ ""
  requests : ∀ key, UsageKey.Touched day cls provider endpoint key →
    ((change (lockedBucket usage key)).requestCount : ℚ) =
      (lockedBucket usage key).requestCount + dn
  reserved : ∀ key, UsageKey.Touched day cls provider endpoint key →
    (change (lockedBucket usage key)).reservedSpend = (lockedBucket usage key).reservedSpend + dr
  spend : ∀ key, UsageKey.Touched day cls provider endpoint key →
    (change (lockedBucket usage key)).spend = (lockedBucket usage key).spend + ds
  unreconciled : ∀ key, UsageKey.Touched day cls provider endpoint key →
    (change (lockedBucket usage key)).unreconciledSpend =
      (lockedBucket usage key).unreconciledSpend + du

section Posting
variable {usage : List ProviderDailyUsage} {day : Date} {cls : UsageClass}
  {provider endpoint : String} {change : ProviderDailyUsage → ProviderDailyUsage}
  {dn dr ds du : ℚ}

theorem touched_summary (day : Date) (cls : UsageClass) (provider endpoint : String) :
    UsageKey.Touched day cls provider endpoint ⟨day, cls, provider, ""⟩ := ⟨rfl, rfl, rfl, Or.inl rfl⟩

theorem touched_endpoint (day : Date) (cls : UsageClass) (provider endpoint : String) :
    UsageKey.Touched day cls provider endpoint ⟨day, cls, provider, endpoint⟩ :=
  ⟨rfl, rfl, rfl, Or.inr rfl⟩

/-- A quantity that moves by the same amount in both buckets stays balanced. -/
theorem summary_post (keeps : KeepsKey change) (hep : endpoint ≠ "") {w : ProviderDailyUsage → ℚ}
    (zero : ∀ key, w (.empty key) = 0) {moved : ℚ}
    (moves : ∀ key, UsageKey.Touched day cls provider endpoint key →
      w (change (lockedBucket usage key)) = w (lockedBucket usage key) + moved)
    {d : Date} {c : UsageClass} {p : String}
    (balanced : w (lockedBucket usage ⟨d, c, p, ""⟩) = endpointTotal usage d c p w) :
    w (lockedBucket (postBuckets day cls provider endpoint change usage) ⟨d, c, p, ""⟩) =
      endpointTotal (postBuckets day cls provider endpoint change usage) d c p w := by
  rw [lockedBucket_postBuckets keeps hep, endpointTotal_postBuckets keeps hep _ _ _ _ _ _ _ zero,
    ← balanced]
  by_cases same : day = d ∧ cls = c ∧ provider = p
  · obtain ⟨rfl, rfl, rfl⟩ := same
    have own := moves _ (touched_endpoint day cls provider endpoint)
    rw [if_pos (touched_summary ..), if_pos ⟨rfl, rfl, rfl⟩, own,
      moves _ (touched_summary ..)]
    linarith
  · have untouched : ¬ UsageKey.Touched day cls provider endpoint ⟨d, c, p, ""⟩ :=
      fun h => same ⟨h.1.symm, h.2.1.symm, h.2.2.1.symm⟩
    rw [if_neg untouched, if_neg same, add_zero]

theorem Moves.summary (moves : Moves usage day cls provider endpoint change dn dr ds du) {w : ProviderDailyUsage → ℚ} (member : w ∈ quantities)
    {d : Date} {c : UsageClass} {p : String}
    (balanced : w (lockedBucket usage ⟨d, c, p, ""⟩) = endpointTotal usage d c p w) :
    w (lockedBucket (postBuckets day cls provider endpoint change usage) ⟨d, c, p, ""⟩) =
      endpointTotal (postBuckets day cls provider endpoint change usage) d c p w := by
  simp only [quantities, List.mem_cons, List.not_mem_nil, or_false] at member
  rcases member with rfl | rfl | rfl | rfl
  · exact summary_post (w := fun b => (b.requestCount : ℚ)) moves.keeps moves.named
      (fun _ => by simp [ProviderDailyUsage.empty]) moves.requests balanced
  · exact summary_post moves.keeps moves.named (fun _ => rfl) moves.reserved balanced
  · exact summary_post moves.keeps moves.named (fun _ => rfl) moves.spend balanced
  · exact summary_post moves.keeps moves.named (fun _ => rfl) moves.unreconciled balanced

/-- A posting and the row writes it belongs to keep the ledger exact when the
rows' holdings move by what is posted. -/
theorem Exact.post {db : Database} (exact : Exact db) {calls : List ApiCall}
    (moves : Moves db.usage day cls provider endpoint change dn dr ds du)
    (reserved : ∀ key, held calls .reserved key = held db.calls .reserved key +
      if UsageKey.Touched day cls provider endpoint key then dr else 0)
    (unknown : ∀ key, held calls .reconciledUnknown key = held db.calls .reconciledUnknown key +
      if UsageKey.Touched day cls provider endpoint key then du else 0) :
    Exact { postUsage db day cls provider endpoint change with calls := calls } := by
  constructor
  · intro key
    simp only [postUsage_usage]
    rw [reserved key, lockedBucket_postBuckets moves.keeps moves.named]
    split
    · rename_i touched
      rw [moves.reserved key touched, exact.reserved key]
    · rw [exact.reserved key, add_zero]
  · intro key
    simp only [postUsage_usage]
    rw [unknown key, lockedBucket_postBuckets moves.keeps moves.named]
    split
    · rename_i touched
      rw [moves.unreconciled key touched, exact.unreconciled key]
    · rw [exact.unreconciled key, add_zero]
  · intro d c p w member
    exact moves.summary member (exact.summary d c p w member)

theorem held_set {calls : List ApiCall} {i : Nat} {old : ApiCall} (found : calls[i]? = some old)
    (new : ApiCall) (state : ReservationState) (key : UsageKey) :
    held (calls.set i new) state key =
      held calls state key + (share state key new - share state key old) :=
  Table.sum_map_set _ new found

/-- Row writes that move no holdings need no posting. -/
theorem Exact.calls {db : Database} (exact : Exact db) {calls : List ApiCall}
    (reserved : ∀ key, held calls .reserved key = held db.calls .reserved key)
    (unknown : ∀ key, held calls .reconciledUnknown key = held db.calls .reconciledUnknown key) :
    Exact { db with calls := calls } :=
  ⟨fun key => (exact.reserved key).trans (reserved key).symm,
    fun key => (exact.unreconciled key).trans (unknown key).symm, exact.summary⟩

end Posting

/-! ## Rows after each operation -/

theorem rowValid_new (scan : Option Nat) (planned : Option String) (provider : String)
    {endpoint : String} (hep : endpoint ≠ "") (cacheKey : String) (estimate : Usd)
    (p : Preparation) : RowValid (.new scan planned provider endpoint cacheKey estimate p) where
  endpoint := hep
  estimate := le_refl 0
  unreserved := fun _ => rfl
  reserved := fun h => by cases h
  unknown := fun h => by cases h
  live := fun _ => by
    cases hit : p.cacheHit <;> simp [ApiCall.new, Preparation.status, hit, CallStatus.retryable]

theorem RowValid.retry {row : ApiCall} (valid : RowValid row) (p : Preparation) :
    RowValid (row.retry p) where
  endpoint := valid.endpoint
  estimate := le_refl 0
  unreserved := fun _ => rfl
  reserved := fun h => by cases h
  unknown := fun h => by cases h
  live := fun _ => by
    cases hit : p.cacheHit <;> simp [ApiCall.retry, Preparation.status, hit, CallStatus.retryable]

theorem RowValid.reserve {row : ApiCall} (valid : RowValid row)
    (prepared : row.attemptState = .prepared) (day : Date) (cls : UsageClass) {estimate : Usd}
    (nonneg : 0 ≤ estimate) : RowValid (row.reserve day cls estimate) where
  endpoint := valid.endpoint
  estimate := nonneg
  unreserved := fun h => by cases h
  reserved := fun _ => ⟨rfl, Or.inl rfl⟩
  unknown := fun h => by cases h
  live := fun _ => valid.live (Or.inl prepared)

theorem RowValid.submit {row : ApiCall} (valid : RowValid row)
    (reserved : row.reservationState = .reserved) (now : DateTime) : RowValid (row.submit now) where
  endpoint := valid.endpoint
  estimate := valid.estimate
  unreserved := valid.unreserved
  reserved := fun _ => ⟨(valid.reserved reserved).1, Or.inr rfl⟩
  unknown := fun h => by
    change row.reservationState = .reconciledUnknown at h
    rw [reserved] at h
    cases h
  live := fun _ => rfl

/-- `_finish_api_call` closes an attempt or leaves the row as it was. -/
theorem finish_live {row : ApiCall} (r : CallRecord)
    (live : row.attemptState = .prepared ∨ row.attemptState = .reserved ∨
      row.attemptState = .inFlight → row.status.retryable = false) :
    (row.finish r).attemptState = .prepared ∨ (row.finish r).attemptState = .reserved ∨
      (row.finish r).attemptState = .inFlight → (row.finish r).status.retryable = false := by
  unfold ApiCall.finish
  split
  · exact live
  · cases status : r.status <;> simp [CallStatus.attempt, CallStatus.retryable]

theorem finish_reservation (row : ApiCall) (r : CallRecord) :
    (row.finish r).reservationState = row.reservationState ∧
    (row.finish r).reservationUsageDate = row.reservationUsageDate ∧
    (row.finish r).reservationUsageClass = row.reservationUsageClass ∧
    (row.finish r).reservationEstimatedCost = row.reservationEstimatedCost ∧
    (row.finish r).provider = row.provider ∧ (row.finish r).endpoint = row.endpoint := by
  unfold ApiCall.finish
  split <;> simp

theorem RowValid.settle {row : ApiCall} (endpoint : row.endpoint ≠ "")
    (estimate : 0 ≤ row.reservationEstimatedCost)
    (live : row.attemptState = .prepared ∨ row.attemptState = .reserved ∨
      row.attemptState = .inFlight → row.status.retryable = false)
    (unknown : Bool) (now : DateTime) : RowValid (row.settle unknown now) := by
  cases unknown with
  | true =>
    exact ⟨endpoint, estimate, fun h => (by cases h), fun h => (by cases h), fun _ => ⟨rfl, rfl⟩,
      fun _ => rfl⟩
  | false =>
    exact ⟨endpoint, estimate, fun h => (by cases h), fun h => (by cases h), fun h => (by cases h), live⟩

/-- Recording an outcome on a row whose reservation is closed. -/
theorem RowValid.finish {row : ApiCall} (valid : RowValid row)
    (closed : row.reservationState ≠ .reserved) (r : CallRecord) : RowValid (row.finish r) := by
  obtain ⟨state, day, -, cost, -, endpoint⟩ := finish_reservation row r
  refine ⟨by rw [endpoint]; exact valid.endpoint, by rw [cost]; exact valid.estimate,
    fun h => ?_, fun h => ?_, fun h => ?_, finish_live r valid.live⟩
  · rw [state] at h
    rw [day]
    exact valid.unreserved h
  · rw [state] at h
    exact absurd h closed
  · rw [state] at h
    obtain ⟨status, attempt⟩ := valid.unknown h
    by_cases other : r.status = .providerOutcomeUnknown
    · simp [ApiCall.finish, other, CallStatus.attempt]
    · simp [ApiCall.finish, status, other, attempt]

theorem RowValid.resolve {row : ApiCall} (valid : RowValid row) (outcome : ResolvedOutcome)
    (actual : Usd) (note : String) (now : DateTime) :
    RowValid (row.resolve outcome actual note now) where
  endpoint := valid.endpoint
  estimate := valid.estimate
  unreserved := fun h => by cases h
  reserved := fun h => by cases h
  unknown := fun h => by cases h
  live := fun h => by simp [ApiCall.resolve] at h

/-- The stale pass over a live attempt. -/
theorem RowValid.abandon {row : ApiCall} (valid : RowValid row)
    (live : row.attemptState = .prepared ∨ row.attemptState = .reserved ∨
      row.attemptState = .inFlight)
    (unreserved : row.reservationState ≠ .reserved) (unknown : Bool) (now : DateTime) :
    RowValid (row.abandon unknown now) := by
  have known : row.reservationState ≠ .reconciledUnknown := by
    intro h
    have attempt := (valid.unknown h).2
    simp [attempt] at live
  cases unknown with
  | true =>
    exact ⟨valid.endpoint, valid.estimate, valid.unreserved, fun h => absurd h unreserved,
      fun h => absurd h known, fun h => by simp [ApiCall.abandon] at h⟩
  | false =>
    exact ⟨valid.endpoint, valid.estimate, valid.unreserved, fun h => absurd h unreserved,
      fun h => absurd h known, fun h => by simp [ApiCall.abandon] at h⟩

theorem RowValid.release {row : ApiCall} (valid : RowValid row) (unknown : Bool) (now : DateTime) :
    RowValid ((row.reconcileReservation unknown now).abandon unknown now) := by
  cases unknown with
  | true =>
    exact ⟨valid.endpoint, valid.estimate, fun h => (by cases h), fun h => (by cases h),
      fun _ => ⟨rfl, rfl⟩, fun h => by simp [ApiCall.abandon] at h⟩
  | false =>
    exact ⟨valid.endpoint, valid.estimate, fun h => (by cases h), fun h => (by cases h),
      fun h => (by cases h), fun h => by simp [ApiCall.abandon] at h⟩

end RankRent.CostControls
