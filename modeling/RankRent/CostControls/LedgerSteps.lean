import RankRent.CostControls.Ledger

/-!
# Operations on the ledger

Each operation, reading current rows, keeps the ledger exact and its rows
valid. `Owns` is the one thing a completion has to find: the row's open
reservation is the one it finishes.
-/

namespace RankRent.CostControls

/-- The ledger invariant: exact buckets over valid rows. -/
structure Sound (db : Database) : Prop where
  exact : Exact db
  rows : RowsValid db.calls

/-- The row's open reservation is `r`. -/
structure Owns (row : ApiCall) (r : UsageReservation) : Prop where
  state : row.reservationState = .reserved
  day : row.reservationUsageDate = some r.usageDate
  cls : row.reservationUsageClass = some r.usageClass
  cost : row.reservationEstimatedCost = r.estimatedCost
  provider : row.provider = r.provider
  endpoint : row.endpoint = r.endpoint

instance (row : ApiCall) (r : UsageReservation) : Decidable (Owns row r) :=
  decidable_of_iff (row.reservationState = .reserved ∧ row.reservationUsageDate = some r.usageDate ∧
      row.reservationUsageClass = some r.usageClass ∧
      row.reservationEstimatedCost = r.estimatedCost ∧ row.provider = r.provider ∧
      row.endpoint = r.endpoint)
    ⟨fun ⟨state, day, cls, cost, provider, endpoint⟩ => ⟨state, day, cls, cost, provider, endpoint⟩,
      fun owns => ⟨owns.state, owns.day, owns.cls, owns.cost, owns.provider, owns.endpoint⟩⟩

/-- A debit takes from the buckets of a posting more than one of them has. -/
def Overdraws (usage : List ProviderDailyUsage) (day : Date) (cls : UsageClass)
    (provider endpoint : String) (counter : ProviderDailyUsage → Usd) (amount : Usd) : Prop :=
  ∃ key, UsageKey.Touched day cls provider endpoint key ∧ counter (lockedBucket usage key) < amount

section Moves
variable (usage : List ProviderDailyUsage) (day : Date) (cls : UsageClass) (provider : String)
  {endpoint : String} (hep : endpoint ≠ "")
include hep

theorem moves_lock : Moves usage day cls provider endpoint id 0 0 0 0 :=
  ⟨keepsKey_id, hep, fun _ _ => by simp, fun _ _ => by simp, fun _ _ => by simp,
    fun _ _ => by simp⟩

theorem moves_reserve (estimate : Usd) (miss : Bool) :
    Moves usage day cls provider endpoint (reserveUsage estimate miss) 1 estimate 0 0 :=
  ⟨keepsKey_reserve _ _, hep, fun _ _ => by simp [reserveUsage], fun _ _ => rfl,
    fun _ _ => by simp [reserveUsage], fun _ _ => by simp [reserveUsage]⟩

theorem moves_finish {estimate : Usd} (q : FinishRequest)
    (covers : ¬ Overdraws usage day cls provider endpoint (·.reservedSpend) estimate) :
    Moves usage day cls provider endpoint (finishUsage estimate q) 0 (-estimate)
      (if q.providerOutcomeUnknown then 0 else max 0 q.actualCost)
      (if q.providerOutcomeUnknown then estimate else 0) := by
  refine ⟨keepsKey_finish _ _, hep, fun _ _ => by simp [finishUsage], fun key touched => ?_,
    fun _ _ => by cases h : q.providerOutcomeUnknown <;> simp [finishUsage, h],
    fun _ _ => by cases h : q.providerOutcomeUnknown <;> simp [finishUsage, h]⟩
  have enough : estimate ≤ (lockedBucket usage key).reservedSpend :=
    not_lt.mp fun short => covers ⟨key, touched, short⟩
  simp only [finishUsage]
  rw [max_eq_right (by linarith)]
  ring

theorem moves_release {estimate : Usd} (unknown : Bool)
    (covers : ¬ Overdraws usage day cls provider endpoint (·.reservedSpend) estimate) :
    Moves usage day cls provider endpoint (releaseUsage estimate unknown) 0 (-estimate) 0
      (if unknown then estimate else 0) := by
  refine ⟨keepsKey_release _ _, hep, fun _ _ => by simp [releaseUsage], fun key touched => ?_,
    fun _ _ => by simp [releaseUsage],
    fun _ _ => by cases unknown <;> simp [releaseUsage]⟩
  have enough : estimate ≤ (lockedBucket usage key).reservedSpend :=
    not_lt.mp fun short => covers ⟨key, touched, short⟩
  simp only [releaseUsage]
  rw [max_eq_right (by linarith)]
  ring

theorem moves_resolve {estimate : Usd} (actual : Usd)
    (covers : ¬ Overdraws usage day cls provider endpoint (·.unreconciledSpend) estimate) :
    Moves usage day cls provider endpoint (resolveUsage estimate actual) 0 0 actual (-estimate) := by
  refine ⟨keepsKey_resolve _ _, hep, fun _ _ => by simp [resolveUsage],
    fun _ _ => by simp [resolveUsage], fun _ _ => rfl, fun key touched => ?_⟩
  have enough : estimate ≤ (lockedBucket usage key).unreconciledSpend :=
    not_lt.mp fun short => covers ⟨key, touched, short⟩
  simp only [resolveUsage]
  rw [max_eq_right (by linarith)]
  ring

end Moves

/-! ## No debit overdraws -/

/-- What a row has reserved is in the buckets it was reserved in. -/
theorem Sound.reserved_covered {db : Database} (sound : Sound db) {i : Nat} {row : ApiCall}
    (found : db.calls[i]? = some row) (state : row.reservationState = .reserved) {day : Date}
    (reserved : row.reservationUsageDate = some day) :
    ¬ Overdraws db.usage day (row.reservationUsageClass.getD .testing) row.provider row.endpoint
      (·.reservedSpend) row.reservationEstimatedCost := by
  rintro ⟨key, touched, short⟩
  have within := (sound.exact.covered sound.rows found key).1
  rw [← state, share_of_date _ reserved, if_pos touched] at within
  exact absurd short (not_lt.mpr within)

theorem Sound.unknown_covered {db : Database} (sound : Sound db) {i : Nat} {row : ApiCall}
    (found : db.calls[i]? = some row) (state : row.reservationState = .reconciledUnknown)
    {day : Date} (reserved : row.reservationUsageDate = some day) :
    ¬ Overdraws db.usage day (row.reservationUsageClass.getD .testing) row.provider row.endpoint
      (·.unreconciledSpend) row.reservationEstimatedCost := by
  rintro ⟨key, touched, short⟩
  have within := (sound.exact.covered sound.rows found key).2
  rw [← state, share_of_date _ reserved, if_pos touched] at within
  exact absurd short (not_lt.mpr within)

/-! ## Balanced transactions -/

/-- A transaction that writes rows without moving what they hold, or posts to
the buckets of one reservation what it moves in the rows. The last two
arguments are the requests it counts and the committed spend it adds. -/
inductive Balanced (db : Database) : Database → ℚ → Usd → Prop where
  | rows {calls : List ApiCall}
      (reserved : ∀ key, held calls .reserved key = held db.calls .reserved key)
      (unknown : ∀ key, held calls .reconciledUnknown key = held db.calls .reconciledUnknown key) :
      Balanced db { db with calls := calls } 0 0
  | posting {day : Date} {cls : UsageClass} {provider endpoint : String}
      {change : ProviderDailyUsage → ProviderDailyUsage} {dn : ℚ} {dr ds du : Usd}
      (calls : List ApiCall) (moves : Moves db.usage day cls provider endpoint change dn dr ds du)
      (reserved : ∀ key, held calls .reserved key = held db.calls .reserved key +
        if UsageKey.Touched day cls provider endpoint key then dr else 0)
      (unknown : ∀ key, held calls .reconciledUnknown key = held db.calls .reconciledUnknown key +
        if UsageKey.Touched day cls provider endpoint key then du else 0) :
      Balanced db { postUsage db day cls provider endpoint change with calls := calls } dn
        (dr + ds + du)

theorem Balanced.exact {db db' : Database} {n : ℚ} {added : Usd} (balanced : Balanced db db' n added)
    (exact : Exact db) : Exact db' := by
  cases balanced with
  | rows reserved unknown => exact exact.calls reserved unknown
  | posting calls moves reserved unknown => exact exact.post moves reserved unknown

/-- A row written over with the same holdings. -/
theorem balanced_set {db : Database} {i : Nat} {old new : ApiCall} (found : db.calls[i]? = some old)
    (reserved : ∀ key, share .reserved key new = share .reserved key old)
    (unknown : ∀ key, share .reconciledUnknown key new = share .reconciledUnknown key old) :
    Balanced db { db with calls := db.calls.set i new } 0 0 :=
  .rows (fun key => Table.sum_map_set_of_eq _ new found (reserved key))
    (fun key => Table.sum_map_set_of_eq _ new found (unknown key))

/-- The reservation columns of two rows agree. -/
structure SameReservation (old new : ApiCall) : Prop where
  state : new.reservationState = old.reservationState
  day : new.reservationUsageDate = old.reservationUsageDate
  cls : new.reservationUsageClass = old.reservationUsageClass
  cost : new.reservationEstimatedCost = old.reservationEstimatedCost
  provider : new.provider = old.provider
  endpoint : new.endpoint = old.endpoint

theorem SameReservation.share {old new : ApiCall} (same : SameReservation old new)
    (state : ReservationState) (key : UsageKey) : share state key new = share state key old := by
  have counts : CountsIn new key ↔ CountsIn old key := by
    unfold CountsIn
    rw [same.day, same.cls, same.provider, same.endpoint]
  simp only [CostControls.share, same.state, same.cost, counts]

theorem sameReservation_submit (row : ApiCall) (now : DateTime) :
    SameReservation row (row.submit now) := ⟨rfl, rfl, rfl, rfl, rfl, rfl⟩

theorem sameReservation_finish (row : ApiCall) (r : CallRecord) :
    SameReservation row (row.finish r) := by
  obtain ⟨state, day, cls, cost, provider, endpoint⟩ := finish_reservation row r
  exact ⟨state, day, cls, cost, provider, endpoint⟩

theorem sameReservation_abandon (row : ApiCall) (unknown : Bool) (now : DateTime) :
    SameReservation row (row.abandon unknown now) := by
  cases unknown <;> exact ⟨rfl, rfl, rfl, rfl, rfl, rfl⟩

theorem SameReservation.owns {old new : ApiCall} (same : SameReservation old new)
    {r : UsageReservation} (owns : Owns old r) : Owns new r where
  state := same.state.trans owns.state
  day := same.day.trans owns.day
  cls := same.cls.trans owns.cls
  cost := same.cost.trans owns.cost
  provider := same.provider.trans owns.provider
  endpoint := same.endpoint.trans owns.endpoint

/-- A posting together with the one row it belongs to. -/
theorem balanced_move {db : Database} {i : Nat} {old : ApiCall} (new : ApiCall) {day : Date} {cls : UsageClass}
    {provider endpoint : String} {change : ProviderDailyUsage → ProviderDailyUsage} {dn : ℚ}
    {dr ds du : Usd} (found : db.calls[i]? = some old)
    (moves : Moves db.usage day cls provider endpoint change dn dr ds du)
    (reserved : ∀ key, share .reserved key new - share .reserved key old =
      if UsageKey.Touched day cls provider endpoint key then dr else 0)
    (unknown : ∀ key, share .reconciledUnknown key new - share .reconciledUnknown key old =
      if UsageKey.Touched day cls provider endpoint key then du else 0) :
    Balanced db { postUsage db day cls provider endpoint change with calls := db.calls.set i new }
      dn (dr + ds + du) := by
  refine .posting _ moves (fun key => ?_) (fun key => ?_)
  · rw [held_set found, reserved key]
  · rw [held_set found, unknown key]

/-! ## The operations -/

theorem Sound.of_balanced {db db' : Database} (sound : Sound db) {n : ℚ} {added : Usd}
    (balanced : Balanced db db' n added) (rows : RowsValid db'.calls) : Sound db' :=
  ⟨balanced.exact sound.exact, rows⟩

theorem Owns.share {row : ApiCall} {r : UsageReservation} (owns : Owns row r) (key : UsageKey) :
    CostControls.share .reserved key row =
      if UsageKey.Touched r.usageDate r.usageClass r.provider r.endpoint key then r.estimatedCost
      else 0 := by
  rw [← owns.state, share_of_date _ owns.day, owns.cls, owns.cost, owns.provider, owns.endpoint]
  rfl

/-- Buckets are created empty. -/
theorem balanced_lock (db : Database) {q : ReserveRequest} (named : q.endpoint ≠ "") :
    Balanced db (lockedUsage db q) 0 0 := by
  have posted := Balanced.posting db.calls
    (moves_lock db.usage (date q.now) (usageClass q.environment) q.provider named)
    (fun _ => by simp) (fun _ => by simp)
  rw [add_zero, add_zero] at posted
  exact posted

/-- A granted reservation. -/
theorem balanced_reserve {db : Database} {i : Nat} {row : ApiCall} {q : ReserveRequest}
    (named : q.endpoint ≠ "") (found : db.calls[i]? = some row)
    (free : row.reservationState = .none) (provider : row.provider = q.provider)
    (endpoint : row.endpoint = q.endpoint) :
    Balanced (lockedUsage db q)
      { grantedUsage db q with
        calls := db.calls.set i
          (row.reserve (date q.now) (usageClass q.environment) q.estimatedCost) }
      1 q.estimatedCost := by
  let new := row.reserve (date q.now) (usageClass q.environment) q.estimatedCost
  have unheld (state : ReservationState) (other : state ≠ .none) (key : UsageKey) :
      share state key row = 0 :=
    share_of_state_ne _ key (by rw [free]; exact other.symm)
  have posted := balanced_move new
    (show (lockedUsage db q).calls[i]? = some row from found)
    (moves_reserve (lockedUsage db q).usage (date q.now) (usageClass q.environment) q.provider named
      q.estimatedCost q.cacheMiss) ?_ ?_
  · rw [add_zero, add_zero] at posted
    exact posted
  · intro key
    rw [unheld .reserved nofun, sub_zero, ← provider, ← endpoint]
    exact share_of_date new rfl key
  · intro key
    rw [unheld .reconciledUnknown nofun, share_of_state_ne new key (by exact nofun), sub_zero, ite_self]

/-- A completion by the owner of the reservation, whose outcome may have been
recorded on the row before. -/
theorem balanced_finish {db : Database} (sound : Sound db) {i : Nat} {row recorded : ApiCall}
    (found : db.calls[i]? = some row) (same : SameReservation row recorded) {r : UsageReservation}
    (owns : Owns row r) (q : FinishRequest) :
    Balanced db
      { postUsage db r.usageDate r.usageClass r.provider r.endpoint
          (finishUsage r.estimatedCost q) with
        calls := db.calls.set i (recorded.settle q.providerOutcomeUnknown q.now) } 0
      (if q.providerOutcomeUnknown then 0 else max 0 q.actualCost - r.estimatedCost) := by
  have covered := sound.reserved_covered found owns.state owns.day
  rw [owns.cls, owns.cost, owns.provider, owns.endpoint] at covered
  have named : r.endpoint ≠ "" := owns.endpoint ▸ (sound.rows.get found).endpoint
  have moves := moves_finish db.usage r.usageDate r.usageClass r.provider named q covered
  have posted := balanced_move (recorded.settle q.providerOutcomeUnknown q.now) found moves
    ?_ ?_
  · cases unknown : q.providerOutcomeUnknown <;> simp only [unknown] at posted ⊢
    · simpa [sub_eq_neg_add] using posted
    · simpa using posted
  · intro key
    rw [owns.share key, share_of_state_ne _ key
      (by cases q.providerOutcomeUnknown <;> exact nofun)]
    split <;> simp
  · intro key
    rw [share_of_state_ne row key (by rw [owns.state]; exact nofun), sub_zero]
    cases unknown : q.providerOutcomeUnknown with
    | false => rw [share_of_state_ne _ key (by exact nofun)]; simp
    | true =>
      have kept := same.owns owns
      have settled := share_of_date (recorded.settle true q.now) kept.day key
      rw [← kept.cost, ← kept.provider, ← kept.endpoint]
      have cls : (recorded.settle true q.now).reservationUsageClass.getD .testing = r.usageClass := by
        change recorded.reservationUsageClass.getD .testing = _
        rw [kept.cls]
        rfl
      rw [cls] at settled
      simp only [↓reduceIte]
      exact settled

/-- A reservation handed back, or kept as unreconciled spend. -/
theorem balanced_release {db : Database} (sound : Sound db) {i : Nat} {row : ApiCall}
    (found : db.calls[i]? = some row) (state : row.reservationState = .reserved) {day : Date}
    (reserved : row.reservationUsageDate = some day) (unknown : Bool) (now : DateTime) :
    Balanced db
      { postUsage db day (row.reservationUsageClass.getD .testing) row.provider row.endpoint
          (releaseUsage row.reservationEstimatedCost unknown) with
        calls := db.calls.set i ((row.reconcileReservation unknown now).abandon unknown now) } 0
      (if unknown then 0 else -row.reservationEstimatedCost) := by
  have covered := sound.reserved_covered found state reserved
  have moves := moves_release db.usage day (row.reservationUsageClass.getD .testing) row.provider
    (sound.rows.get found).endpoint unknown covered
  have posted := balanced_move ((row.reconcileReservation unknown now).abandon unknown now) found moves ?_ ?_
  · cases unknown
    · simpa using posted
    · simpa using posted
  · intro key
    rw [← state, share_of_date _ reserved key]
    rw [share_of_state_ne _ key (by rw [state]; cases unknown <;> exact nofun)]
    split <;> simp
  · intro key
    rw [share_of_state_ne row key (by rw [state]; exact nofun), sub_zero]
    cases unknown with
    | false => rw [share_of_state_ne _ key (by exact nofun)]; simp
    | true =>
      simp only [↓reduceIte]
      exact share_of_date ((row.reconcileReservation true now).abandon true now) reserved key

/-- An operator's resolution of a row with a reservation. -/
theorem balanced_resolve {db : Database} (sound : Sound db) {i : Nat} {row : ApiCall}
    (found : db.calls[i]? = some row) (state : row.reservationState = .reconciledUnknown)
    {day : Date} (reserved : row.reservationUsageDate = some day) (outcome : ResolvedOutcome)
    (actual : Usd) (note : String) (now : DateTime) :
    Balanced db
      { postUsage db day (row.reservationUsageClass.getD .testing) row.provider row.endpoint
          (resolveUsage row.reservationEstimatedCost actual) with
        calls := db.calls.set i (row.resolve outcome actual note now) } 0
      (actual - row.reservationEstimatedCost) := by
  have covered := sound.unknown_covered found state reserved
  have moves := moves_resolve db.usage day (row.reservationUsageClass.getD .testing) row.provider
    (sound.rows.get found).endpoint actual covered
  have posted := balanced_move (row.resolve outcome actual note now) found moves ?_ ?_
  · simpa [sub_eq_add_neg] using posted
  · intro key
    rw [share_of_state_ne row key (by rw [state]; exact nofun),
      share_of_state_ne _ key (by exact nofun), sub_zero, ite_self]
  · intro key
    rw [← state, share_of_date _ reserved key]
    rw [share_of_state_ne _ key (by rw [state]; exact nofun)]
    split <;> simp

/-- A row whose reservation is open holds a live attempt, so a retry finds
nothing to hand back. -/
theorem RowValid.unheld_of_retryable {row : ApiCall} (valid : RowValid row)
    (retryable : row.status.retryable = true) :
    row.reservationState ≠ .reserved ∧ row.reservationState ≠ .reconciledUnknown := by
  constructor
  · intro state
    have live := valid.live (Or.inr (valid.reserved state).2)
    rw [retryable] at live
    cases live
  · intro state
    rw [(valid.unknown state).1] at retryable
    cases retryable

theorem balanced_retry {db : Database} (sound : Sound db) {i : Nat} {row : ApiCall}
    (found : db.calls[i]? = some row) (retryable : row.status.retryable = true) (p : Preparation) :
    Balanced db { db with calls := db.calls.set i (row.retry p) } 0 0 := by
  obtain ⟨reserved, unknown⟩ := (sound.rows.get found).unheld_of_retryable retryable
  refine balanced_set found (fun key => ?_) (fun key => ?_)
  · rw [share_of_state_ne _ key reserved, share_of_state_ne _ key (by exact nofun)]
  · rw [share_of_state_ne _ key unknown, share_of_state_ne _ key (by exact nofun)]

theorem balanced_new (db : Database) {row : ApiCall} (free : row.reservationState = .none) :
    Balanced db { db with calls := db.calls ++ [row] } 0 0 := by
  refine .rows (fun key => ?_) (fun key => ?_)
  · rw [held, held, Table.sum_map_append_single, share_of_state_ne _ key (by rw [free]; exact nofun),
      add_zero]
  · rw [held, held, Table.sum_map_append_single, share_of_state_ne _ key (by rw [free]; exact nofun),
      add_zero]

end RankRent.CostControls
