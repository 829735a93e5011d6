import RankRent.CostControls.LedgerSteps

/-!
# Runs of the paid-call policy

The transactions of any number of workers, recovery passes and operators over
one store, each reading current rows, in any order. The reservations handed out
are kept beside the store: a worker finishes or submits only what it was given.
-/

namespace RankRent.CostControls

/-- The store and the reservations handed out. -/
structure Ledger where
  db : Database
  issued : List UsageReservation

/-- One transaction. A completion may carry the outcome `_finish_api_call`
wrote before it. -/
inductive LedgerOp
  | prepare (scanRunId : Option Nat) (plannedRequestId : Option String)
      (provider endpoint cacheKey : String) (estimatedCost : Usd) (p : Preparation)
  | reserve (q : ReserveRequest)
  | submit (r : UsageReservation) (lease : Option ScanExecutionLease) (now : DateTime)
  | finish (record : Option CallRecord) (r : UsageReservation) (q : FinishRequest)
  | reconcile (staleBefore : DateTime) (scanRunId : Option Nat) (now : DateTime)
  | resolve (i : Nat) (outcome : ResolvedOutcome) (actual : Usd) (note : String) (now : DateTime)
  | retry (i : Nat) (p : Preparation)

/-- `_finish_api_call` on the row of a reservation. -/
def recordOutcome (db : Database) (r : UsageReservation) (record : Option CallRecord) : Database :=
  match record, r.apiCallId with
  | some record, some i =>
    match db.calls[i]? with
    | none => db
    | some row => db.putCall none i (row.finish record)
  | _, _ => db

def Ledger.apply (settings : Settings) (s : Ledger) : LedgerOp → Ledger
  | .prepare scan planned provider endpoint cacheKey estimate p =>
    { s with db := { s.db with
        calls := s.db.calls ++ [.new scan planned provider endpoint cacheKey estimate p] } }
  | .reserve q =>
    match reserveProviderCall settings s.db none q with
    | (.ok r, db) => ⟨db, r :: s.issued⟩
    | (.error _, db) => { s with db := db }
  | .submit r lease now =>
    match markProviderCallSubmitted s.db none r lease now with
    | .ok db => { s with db := db }
    | .error _ => s
  | .finish record r q => { s with db := finishProviderCall (recordOutcome s.db r record) none r q }
  | .reconcile staleBefore scan now =>
    { s with db := reconcileStaleApiCallAttempts s.db staleBefore scan now }
  | .resolve i outcome actual note now =>
    match resolveUnknownProviderCall s.db i outcome actual note now with
    | .ok db => { s with db := db }
    | .error _ => s
  | .retry i p =>
    match s.db.calls[i]? with
    | none => s
    | some row => { s with db := s.db.putCall none i (row.retry p) }

/-- How `live.py` makes the calls: a reservation is for a row of its own
provider and endpoint, only reservations that were handed out are submitted and
finished, and `_reserve_api_call` resets failed rows only. -/
def Called (s : Ledger) : LedgerOp → Prop
  | .prepare _ _ _ endpoint _ _ _ => endpoint ≠ ""
  | .reserve q => q.endpoint ≠ "" ∧ 0 ≤ q.estimatedCost ∧
    match q.apiCallId with
    | none => False
    | some i => ∀ row ∈ s.db.calls[i]?, row.provider = q.provider ∧ row.endpoint = q.endpoint
  | .submit r _ _ => r ∈ s.issued
  | .finish _ r _ => r ∈ s.issued
  | .reconcile _ _ _ => True
  | .resolve _ _ _ _ _ => True
  | .retry i _ => ∃ row ∈ s.db.calls[i]?, row.status.retryable = true

instance (s : Ledger) : (op : LedgerOp) → Decidable (Called s op)
  | .prepare _ _ _ endpoint _ _ _ => inferInstanceAs (Decidable (endpoint ≠ ""))
  | .reserve q =>
    have : Decidable (match q.apiCallId with
        | none => False
        | some i => ∀ row ∈ s.db.calls[i]?, row.provider = q.provider ∧ row.endpoint = q.endpoint) :=
      match q.apiCallId with
      | none => inferInstanceAs (Decidable False)
      | some i => inferInstanceAs (Decidable (∀ row ∈ s.db.calls[i]?, _ ∧ _))
    inferInstanceAs (Decidable (_ ∧ _ ∧ _))
  | .submit r _ _ => inferInstanceAs (Decidable (r ∈ s.issued))
  | .finish _ r _ => inferInstanceAs (Decidable (r ∈ s.issued))
  | .reconcile _ _ _ => inferInstanceAs (Decidable True)
  | .resolve _ _ _ _ _ => inferInstanceAs (Decidable True)
  | .retry i _ => inferInstanceAs (Decidable (∃ row ∈ s.db.calls[i]?, row.status.retryable = true))

/-- A completion finds its row closed before, or holding the reservation it
finishes; what it reports as spent is not negative. -/
def FinishesOwn (s : Ledger) : LedgerOp → Prop
  | .finish _ r q =>
    match r.apiCallId with
    | none => False
    | some i => ∃ row ∈ s.db.calls[i]?, row.reservationState.closed = true ∨
        Owns row r ∧ (q.providerOutcomeUnknown = true ∨ 0 ≤ q.actualCost)
  | _ => True

instance (s : Ledger) : (op : LedgerOp) → Decidable (FinishesOwn s op)
  | .finish _ ⟨_, _, _, _, _, none⟩ _ => inferInstanceAs (Decidable False)
  | .finish _ ⟨_, _, _, _, _, some i⟩ _ =>
    inferInstanceAs (Decidable (∃ row ∈ s.db.calls[i]?, _ ∨ _ ∧ (_ ∨ _)))
  | .prepare .. => inferInstanceAs (Decidable True)
  | .reserve _ => inferInstanceAs (Decidable True)
  | .submit .. => inferInstanceAs (Decidable True)
  | .reconcile .. => inferInstanceAs (Decidable True)
  | .resolve .. => inferInstanceAs (Decidable True)
  | .retry .. => inferInstanceAs (Decidable True)

/-- A completion finds its row closed before, or holding its reservation. -/
def FindsOwn (s : Ledger) : LedgerOp → Prop
  | .finish _ r _ => ∃ i row, r.apiCallId = some i ∧ s.db.calls[i]? = some row ∧
      (row.reservationState.closed = true ∨ Owns row r)
  | _ => True

theorem FinishesOwn.row {s : Ledger} {record : Option CallRecord} {r : UsageReservation}
    {q : FinishRequest} (own : FinishesOwn s (.finish record r q)) :
    ∃ i row, r.apiCallId = some i ∧ s.db.calls[i]? = some row ∧
      (row.reservationState.closed = true ∨
        Owns row r ∧ (q.providerOutcomeUnknown = true ∨ 0 ≤ q.actualCost)) := by
  simp only [FinishesOwn] at own
  cases target : r.apiCallId with
  | none => rw [target] at own; exact own.elim
  | some i =>
    rw [target] at own
    obtain ⟨row, found, finds⟩ := own
    exact ⟨i, row, rfl, found, finds⟩

theorem FinishesOwn.finds {s : Ledger} {op : LedgerOp} (own : FinishesOwn s op) : FindsOwn s op := by
  cases op with
  | finish record r q =>
    obtain ⟨i, row, target, found, finds⟩ := own.row
    exact ⟨i, row, target, found, finds.imp_right And.left⟩
  | prepare => exact trivial
  | reserve => exact trivial
  | submit => exact trivial
  | reconcile => exact trivial
  | resolve => exact trivial
  | retry => exact trivial

/-! ## Truncation -/

/-- A `max(0, ..)` of the stale pass truncates. -/
def ReconcileTruncates (now : DateTime) (db : Database) : List Nat → Prop
  | [] => False
  | i :: rest =>
    (∃ row day, db.calls[i]? = some row ∧ row.reservationState = .reserved ∧
      row.reservationUsageDate = some day ∧
      Overdraws db.usage day (row.reservationUsageClass.getD .testing) row.provider row.endpoint
        (·.reservedSpend) row.reservationEstimatedCost) ∨
    ReconcileTruncates now (reconcileAttempt now db i) rest

/-- A `max(0, ..)` of the operation truncates. -/
def Truncates (s : Ledger) : LedgerOp → Prop
  | .finish _ r q =>
    (∀ i row, r.apiCallId = some i → s.db.calls[i]? = some row →
      row.reservationState.closed = false) ∧
    (Overdraws s.db.usage r.usageDate r.usageClass r.provider r.endpoint (·.reservedSpend)
        r.estimatedCost ∨
      q.providerOutcomeUnknown = false ∧ q.actualCost < 0)
  | .reconcile staleBefore scan now =>
    ReconcileTruncates now s.db (staleAttempts s.db staleBefore scan)
  | .resolve i _ _ _ _ => ∃ row day, s.db.calls[i]? = some row ∧ row.awaitsOutcome = true ∧
      row.reservationUsageDate = some day ∧
      Overdraws s.db.usage day (row.reservationUsageClass.getD .testing) row.provider row.endpoint
        (·.unreconciledSpend) row.reservationEstimatedCost
  | _ => False

/-! ## What a transaction of a run can do -/

/-- The row with the outcome recorded on it, if one was. -/
def recorded (record : Option CallRecord) (row : ApiCall) : ApiCall :=
  match record with
  | none => row
  | some record => row.finish record

theorem sameReservation_recorded (record : Option CallRecord) (row : ApiCall) :
    SameReservation row (recorded record row) := by
  cases record with
  | none => exact ⟨rfl, rfl, rfl, rfl, rfl, rfl⟩
  | some record => exact sameReservation_finish row record

theorem recorded_live {row : ApiCall} (valid : RowValid row) (record : Option CallRecord) :
    (recorded record row).attemptState = .prepared ∨
      (recorded record row).attemptState = .reserved ∨
      (recorded record row).attemptState = .inFlight →
    (recorded record row).status.retryable = false := by
  cases record with
  | none => exact valid.live
  | some record => exact finish_live record valid.live

theorem RowValid.recorded {row : ApiCall} (valid : RowValid row)
    (closed : row.reservationState ≠ .reserved) (record : Option CallRecord) :
    RowValid (CostControls.recorded record row) := by
  cases record with
  | none => exact valid
  | some record => exact valid.finish closed record

theorem recordOutcome_eq {db : Database} {r : UsageReservation} {i : Nat} {row : ApiCall}
    (target : r.apiCallId = some i) (found : db.calls[i]? = some row) (record : Option CallRecord) :
    recordOutcome db r record = { db with calls := db.calls.set i (recorded record row) } := by
  unfold recordOutcome recorded
  cases record with
  | none =>
    have same : db.calls.set i row = db.calls := by
      obtain ⟨bound, rfl⟩ := List.getElem?_eq_some_iff.mp found
      exact List.set_getElem_self bound
    simp only [same]
  | some record => simp only [target, found, Database.putCall_none found]

/-- A reservation: refused, or granted to a prepared row without one. -/
theorem reserve_cases (settings : Settings) {s : Ledger} {q : ReserveRequest}
    (called : Called s (.reserve q)) :
    s.apply settings (.reserve q) = s ∨
    s.apply settings (.reserve q) = { s with db := lockedUsage s.db q } ∨
    ∃ i row, q.apiCallId = some i ∧ s.db.calls[i]? = some row ∧
      row.reservationState = .none ∧ row.attemptState = .prepared ∧
      row.provider = q.provider ∧ row.endpoint = q.endpoint ∧
      WithinLimits settings (lockedBucket (lockedUsage s.db q).usage
        ⟨date q.now, usageClass q.environment, q.provider, ""⟩) q ∧
      s.apply settings (.reserve q) =
        ⟨{ grantedUsage s.db q with
            calls := s.db.calls.set i
              (row.reserve (date q.now) (usageClass q.environment) q.estimatedCost) },
          ⟨date q.now, usageClass q.environment, q.provider, q.endpoint, q.estimatedCost,
            some i⟩ :: s.issued⟩ := by
  obtain ⟨e, refused⟩ | ⟨e, refused⟩ | ⟨-, sees, limits, granted⟩ :=
    reserveProviderCall_cases settings s.db none q
  · exact Or.inl (by simp only [Ledger.apply, refused])
  · exact Or.inr (Or.inl (by simp only [Ledger.apply, refused]))
  · obtain ⟨-, -, own⟩ := called
    cases target : q.apiCallId with
    | none => rw [target] at own; exact own.elim
    | some i =>
      obtain ⟨row, found, free, prepared⟩ := sees i target
      rw [Database.getCall_none] at found
      rw [target] at own
      obtain ⟨provider, endpoint⟩ := own row found
      have kept : (grantedUsage s.db q).calls[i]? = some row := found
      refine Or.inr (Or.inr ⟨i, row, rfl, found, free, prepared, provider, endpoint, limits, ?_⟩)
      simp only [Ledger.apply, granted, reserveRow, target, Database.getCall_none, kept,
        Database.putCall_none kept]
      rfl

/-- A submission: refused, or the row is marked. -/
theorem submit_cases (settings : Settings) {s : Ledger} {r : UsageReservation}
    {lease : Option ScanExecutionLease} {now : DateTime} :
    s.apply settings (.submit r lease now) = s ∨
    ∃ i row, r.apiCallId = some i ∧ s.db.calls[i]? = some row ∧ row.reservationState = .reserved ∧
      s.apply settings (.submit r lease now) =
        { s with db := { s.db with calls := s.db.calls.set i (row.submit now) } } := by
  simp only [Ledger.apply]
  cases marked : markProviderCallSubmitted s.db none r lease now with
  | error e => exact Or.inl rfl
  | ok db =>
    obtain ⟨-, ⟨-, rfl⟩ | ⟨i, row, target, found, state, -, rfl⟩⟩ := markProviderCallSubmitted_ok marked
    · exact Or.inl rfl
    · rw [Database.getCall_none] at found
      exact Or.inr ⟨i, row, target, found, state, by simp only [Database.putCall_none found]⟩

/-- A completion of a row that is closed records the outcome only; one that
finds its reservation open posts and settles it. -/
theorem finish_cases (settings : Settings) {s : Ledger} {record : Option CallRecord}
    {r : UsageReservation} {q : FinishRequest} {i : Nat} {row : ApiCall}
    (target : r.apiCallId = some i) (found : s.db.calls[i]? = some row) :
    (row.reservationState.closed = true →
      s.apply settings (.finish record r q) =
        { s with db := { s.db with calls := s.db.calls.set i (recorded record row) } }) ∧
    (row.reservationState.closed = false →
      s.apply settings (.finish record r q) =
        { s with db := { postUsage s.db r.usageDate r.usageClass r.provider r.endpoint
            (finishUsage r.estimatedCost q) with
          calls := s.db.calls.set i
            ((recorded record row).settle q.providerOutcomeUnknown q.now) } }) := by
  have bound : i < s.db.calls.length := (List.getElem?_eq_some_iff.mp found).1
  have stored : ({ s.db with calls := s.db.calls.set i (recorded record row) } : Database).calls[i]? =
      some (recorded record row) := by simp [bound]
  have seen : ({ s.db with calls := s.db.calls.set i (recorded record row) } : Database).getCall none i =
      some (recorded record row) := by rw [Database.getCall_none, stored]
  have state := (sameReservation_recorded record row).state
  simp only [Ledger.apply, recordOutcome_eq target found, finishProviderCall_eq target seen, state]
  refine ⟨fun closed => by simp only [closed, ↓reduceIte], fun open_ => ?_⟩
  simp only [open_, Bool.false_eq_true, ↓reduceIte]
  rw [Database.putCall_none (by rw [postUsage_calls]; exact stored)]
  simp only [postUsage, List.set_set]

/-- An operator's resolution: refused, or one posting with the row. -/
theorem resolve_cases (settings : Settings) {s : Ledger} {i : Nat} {outcome : ResolvedOutcome}
    {actual : Usd} {note : String} {now : DateTime} :
    s.apply settings (.resolve i outcome actual note now) = s ∨
    ∃ row, s.db.calls[i]? = some row ∧ row.awaitsOutcome = true ∧ 0 ≤ actual ∧
      (row.reservationUsageDate = none ∧
        s.apply settings (.resolve i outcome actual note now) =
          { s with db := { s.db with
              calls := s.db.calls.set i (row.resolve outcome actual note now) } } ∨
      ∃ day, row.reservationUsageDate = some day ∧
        s.apply settings (.resolve i outcome actual note now) =
          { s with db := { postUsage s.db day (row.reservationUsageClass.getD .testing) row.provider
                row.endpoint (resolveUsage row.reservationEstimatedCost actual) with
              calls := s.db.calls.set i (row.resolve outcome actual note now) } }) := by
  simp only [Ledger.apply]
  cases resolved : resolveUnknownProviderCall s.db i outcome actual note now with
  | error e => exact Or.inl rfl
  | ok db =>
    obtain ⟨positive, row, found, awaits, ⟨day, rfl⟩ | ⟨day, reserved, rfl⟩⟩ :=
      resolveUnknownProviderCall_ok resolved
    · refine Or.inr ⟨row, found, awaits, positive, Or.inl ⟨day, ?_⟩⟩
      simp only [Database.putCall_none found]
    · refine Or.inr ⟨row, found, awaits, positive, Or.inr ⟨day, reserved, ?_⟩⟩
      rw [Database.putCall_none (by rw [postUsage_calls]; exact found)]
      rfl

/-! ## The stale pass -/

/-- One row of a stale pass moves its reservation out of the reserved spend and
leaves the other rows alone. -/
theorem reconcileAttempt_step {db : Database} (sound : Sound db) {i : Nat} {row : ApiCall}
    (found : db.calls[i]? = some row)
    (live : row.attemptState = .prepared ∨ row.attemptState = .reserved ∨
      row.attemptState = .inFlight) (now : DateTime) :
    ∃ new added, Balanced db (reconcileAttempt now db i) 0 added ∧ added ≤ 0 ∧ RowValid new ∧
      (new.reservationState.closed = true ∨ SameReservation row new) ∧
      (reconcileAttempt now db i).calls = db.calls.set i new := by
  have valid := sound.rows.get found
  obtain ⟨day, state, reserved, eq⟩ | ⟨undated, eq⟩ := reconcileAttempt_cases found now
  · rw [Database.putCall_none (by rw [postUsage_calls]; exact found)] at eq
    have balanced := balanced_release sound found state reserved row.maybeSent now
    rw [eq]
    refine ⟨_, _, balanced, ?_, valid.release _ now, Or.inl ?_, rfl⟩
    · split
      · exact le_refl 0
      · exact neg_nonpos.mpr valid.estimate
    · cases row.maybeSent <;> rfl
  · have unreserved : row.reservationState ≠ .reserved := by
      intro state
      have dated := (valid.reserved state).1
      rw [undated state] at dated
      cases dated
    have same := sameReservation_abandon row row.maybeSent now
    rw [Database.putCall_none found] at eq
    rw [eq]
    exact ⟨_, 0, balanced_set found (same.share _) (same.share _), le_refl 0,
      valid.abandon live unreserved _ now, Or.inr same, rfl⟩

/-- What every row of a stale pass keeps, the whole pass keeps. -/
theorem reconcile_invariant {I : Database → Prop} {staleBefore : DateTime} {scan : Option Nat}
    {now : DateTime}
    (kept : ∀ db i row, Sound db → I db → db.calls[i]? = some row →
      staleAttempt staleBefore scan row = true → I (reconcileAttempt now db i))
    {db : Database} (sound : Sound db) (start : I db) :
    Sound (reconcileStaleApiCallAttempts db staleBefore scan now) ∧
      I (reconcileStaleApiCallAttempts db staleBefore scan now) ∧
      ¬ ReconcileTruncates now db (staleAttempts db staleBefore scan) := by
  have selected : ∀ i ∈ staleAttempts db staleBefore scan,
      ∃ row, db.calls[i]? = some row ∧ staleAttempt staleBefore scan row = true :=
    fun i member => mem_staleAttempts.mp member
  have distinct := staleAttempts_nodup db staleBefore scan
  unfold reconcileStaleApiCallAttempts
  generalize staleAttempts db staleBefore scan = ids at selected distinct
  induction ids generalizing db with
  | nil => exact ⟨sound, start, fun truncates => truncates⟩
  | cons i rest ih =>
    obtain ⟨row, found, stale⟩ := selected i List.mem_cons_self
    obtain ⟨new, added, balanced, -, valid, -, calls⟩ :=
      reconcileAttempt_step sound found (staleAttempt_live stale) now
    obtain ⟨absent, distinct⟩ := List.nodup_cons.mp distinct
    have after : Sound (reconcileAttempt now db i) :=
      sound.of_balanced balanced (calls ▸ sound.rows.set valid i)
    obtain ⟨ends, holds, clean⟩ := ih after (kept db i row sound start found stale)
      (fun j member => by
        obtain ⟨other, there, selected⟩ := selected j (List.mem_cons_of_mem i member)
        have differs : i ≠ j := fun same => absent (same ▸ member)
        exact ⟨other, by rw [calls, List.getElem?_set_ne differs]; exact there, selected⟩) distinct
    refine ⟨ends, holds, ?_⟩
    rintro (⟨row', day, found', state, reserved, overdraws⟩ | later)
    · exact sound.reserved_covered found' state reserved overdraws
    · exact clean later

/-! ## Every run keeps the ledger exact -/

/-- A row awaiting its outcome with a reservation on it has it unreconciled. -/
theorem RowValid.unknown_of_awaits {row : ApiCall} (valid : RowValid row)
    (awaits : row.awaitsOutcome = true) {day : Date} (reserved : row.reservationUsageDate = some day) :
    row.reservationState = .reconciledUnknown := by
  simp only [ApiCall.awaitsOutcome, Bool.and_eq_true, Bool.or_eq_true, decide_eq_true_eq] at awaits
  obtain ⟨-, free | unknown⟩ := awaits
  · rw [valid.unreserved free] at reserved
    cases reserved
  · exact unknown

/-- One transaction keeps the ledger. -/
theorem Sound.apply {settings : Settings} {s : Ledger} (sound : Sound s.db) {op : LedgerOp}
    (called : Called s op) (own : FindsOwn s op) : Sound (s.apply settings op).db := by
  cases op with
  | prepare scan planned provider endpoint cacheKey estimate p =>
    refine sound.of_balanced (balanced_new s.db rfl) ?_
    intro row member
    rcases List.mem_append.mp member with member | member
    · exact sound.rows row member
    · rw [List.mem_singleton.mp member]
      exact rowValid_new _ _ _ called _ _ _
  | reserve q =>
    have locked : Sound (lockedUsage s.db q) :=
      sound.of_balanced (balanced_lock s.db called.1) sound.rows
    obtain same | refused | ⟨i, row, -, found, free, prepared, provider, endpoint, -, granted⟩ :=
      reserve_cases settings called
    · rw [same]; exact sound
    · rw [refused]; exact locked
    · rw [granted]
      exact locked.of_balanced (balanced_reserve called.1 found free provider endpoint)
        (sound.rows.set ((sound.rows.get found).reserve prepared _ _ called.2.1) i)
  | submit r lease now =>
    obtain same | ⟨i, row, -, found, state, marked⟩ := submit_cases settings
    · rw [same]; exact sound
    · have reservation := sameReservation_submit row now
      rw [marked]
      exact sound.of_balanced (balanced_set found (reservation.share _) (reservation.share _))
        (sound.rows.set ((sound.rows.get found).submit state now) i)
  | finish record r q =>
    obtain ⟨i, row, target, found, closed | owns⟩ := own
    · have reservation := sameReservation_recorded record row
      have unreserved : row.reservationState ≠ .reserved := by
        intro state
        rw [state] at closed
        cases closed
      rw [(finish_cases settings target found).1 closed]
      exact sound.of_balanced (balanced_set found (reservation.share _) (reservation.share _))
        (sound.rows.set ((sound.rows.get found).recorded unreserved record) i)
    · have reservation := sameReservation_recorded record row
      have valid := sound.rows.get found
      have settled := RowValid.settle (reservation.endpoint ▸ valid.endpoint)
        (reservation.cost ▸ valid.estimate) (recorded_live valid record) q.providerOutcomeUnknown q.now
      rw [(finish_cases settings target found).2 (by rw [owns.state]; rfl)]
      exact sound.of_balanced (balanced_finish sound found reservation owns q)
        (sound.rows.set settled i)
  | reconcile staleBefore scan now =>
    exact (reconcile_invariant (I := fun _ => True) (fun _ _ _ _ _ _ _ => trivial) sound trivial).1
  | resolve i outcome actual note now =>
    obtain same | ⟨row, found, awaits, -, ⟨undated, resolved⟩ | ⟨day, reserved, resolved⟩⟩ :=
      resolve_cases settings
    · rw [same]; exact sound
    · have unheld (state : ReservationState) (key : UsageKey) : share state key row = 0 := by
        simp [share, CountsIn, undated]
      rw [resolved]
      refine sound.of_balanced (balanced_set found (fun key => ?_) (fun key => ?_))
        (sound.rows.set ((sound.rows.get found).resolve outcome actual note now) i)
      · rw [unheld, share_of_state_ne _ key (by simp [ApiCall.resolve])]
      · rw [unheld, share_of_state_ne _ key (by simp [ApiCall.resolve])]
    · rw [resolved]
      exact sound.of_balanced
        (balanced_resolve sound found ((sound.rows.get found).unknown_of_awaits awaits reserved)
          reserved outcome actual note now)
        (sound.rows.set ((sound.rows.get found).resolve outcome actual note now) i)
  | retry i p =>
    obtain ⟨row, found, retryable⟩ := called
    have found : s.db.calls[i]? = some row := found
    simp only [Ledger.apply, found, Database.putCall_none found]
    exact sound.of_balanced (balanced_retry sound found retryable p)
      (sound.rows.set ((sound.rows.get found).retry p) i)

/-- No operation whose completion finds its own reservation truncates. -/
theorem Sound.not_truncates {s : Ledger} (sound : Sound s.db) {op : LedgerOp}
    (own : FinishesOwn s op) : ¬ Truncates s op := by
  cases op with
  | finish record r q =>
    obtain ⟨i, row, target, found, closed | ⟨owns, reported⟩⟩ := own.row
    · rintro ⟨open_, -⟩
      rw [open_ i row target found] at closed
      cases closed
    · rintro ⟨-, overdraws | ⟨known, negative⟩⟩
      · have covered := sound.reserved_covered found owns.state owns.day
        rw [owns.cls, owns.cost, owns.provider, owns.endpoint] at covered
        exact covered overdraws
      · rcases reported with unknown | positive
        · rw [known] at unknown
          cases unknown
        · exact absurd negative (not_lt.mpr positive)
  | reconcile staleBefore scan now =>
    exact (reconcile_invariant (I := fun _ => True) (fun _ _ _ _ _ _ _ => trivial) sound
      trivial).2.2
  | resolve i outcome actual note now =>
    rintro ⟨row, day, found, awaits, reserved, overdraws⟩
    exact sound.unknown_covered found ((sound.rows.get found).unknown_of_awaits awaits reserved)
      reserved overdraws
  | prepare => exact id
  | reserve => exact id
  | submit => exact id
  | retry => exact id

/-- A store before any paid call: no buckets, and no row with an open or
unreconciled reservation. -/
structure Ledger.Fresh (s : Ledger) : Prop where
  usage : s.db.usage = []
  issued : s.issued = []
  rows : RowsValid s.db.calls
  unheld : ∀ row ∈ s.db.calls,
    row.reservationState ≠ .reserved ∧ row.reservationState ≠ .reconciledUnknown

theorem held_eq_zero {calls : List ApiCall} {state : ReservationState}
    (unheld : ∀ row ∈ calls, row.reservationState ≠ state) (key : UsageKey) :
    held calls state key = 0 := by
  refine List.sum_eq_zero fun x member => ?_
  obtain ⟨row, stored, rfl⟩ := List.mem_map.mp member
  exact share_of_state_ne row key (unheld row stored)

theorem Ledger.Fresh.sound {s : Ledger} (fresh : s.Fresh) : Sound s.db := by
  refine ⟨⟨fun key => ?_, fun key => ?_, fun day cls provider w member => ?_⟩, fresh.rows⟩
  · rw [held_eq_zero (fun row member => (fresh.unheld row member).1), fresh.usage]
    rfl
  · rw [held_eq_zero (fun row member => (fresh.unheld row member).2), fresh.usage]
    rfl
  · rw [fresh.usage, lockedBucket_nil]
    simp only [quantities, List.mem_cons, List.not_mem_nil, or_false] at member
    rcases member with rfl | rfl | rfl | rfl <;> rfl

/-- A transaction of the run. -/
def Ledger.Step (settings : Settings) (s : Ledger) (op : LedgerOp) (t : Ledger) : Prop :=
  t = s.apply settings op

/-- In every run whose completions find their own reservation open or their row
closed, the buckets agree with the rows and no debit truncates. -/
theorem ledger_exact_of_own_finishes (settings : Settings) {start s : Ledger} (fresh : start.Fresh)
    (run : Runs.Reaches (fun s op => Called s op ∧ FinishesOwn s op) (Ledger.Step settings) start s) :
    Exact s.db ∧ ∀ op, Called s op → FinishesOwn s op → ¬ Truncates s op := by
  have sound : Sound s.db := by
    refine run.invariant (I := fun s => Sound s.db) ?_ fresh.sound
    rintro s op t sound ⟨called, own⟩ rfl
    exact sound.apply called own.finds
  exact ⟨sound.exact, fun op _ own => sound.not_truncates own⟩

/-- Two sandbox calls of one scan, the first prepared long before the second. -/
def twoPrepared : Ledger :=
  ⟨⟨[], [.new (some 0) (some "p1") "dataforseo" "serp" "k1" 1 ⟨false, false, "a", none, none, 0⟩,
      .new (some 0) (some "p2") "dataforseo" "serp" "k2" 1 ⟨false, false, "b", none, none, 100⟩],
    [], [], []⟩, []⟩

theorem twoPrepared_fresh : twoPrepared.Fresh where
  usage := rfl
  issued := rfl
  rows := by
    intro row member
    simp only [twoPrepared, List.mem_cons, List.not_mem_nil, or_false] at member
    rcases member with rfl | rfl <;> exact rowValid_new _ _ _ (by decide) _ _ _
  unheld := by
    intro row member
    simp only [twoPrepared, List.mem_cons, List.not_mem_nil, or_false] at member
    rcases member with rfl | rfl <;> constructor <;> intro held <;> cases held

/-- The reservation of the `i`-th of them. -/
def reserveOne (i : Nat) : ReserveRequest :=
  ⟨"dataforseo", .sandbox, "v1", "serp", 1, .testing, true, true, some i, none, 100⟩

def reservedOne (i : Nat) : UsageReservation := ⟨0, .testing, "dataforseo", "serp", 1, some i⟩

/-- The first call is reserved, submitted and completed. -/
theorem ledger_exact_one_completed :
    Exact ([LedgerOp.reserve (reserveOne 0), .submit (reservedOne 0) none 101,
      .finish (some ⟨.completed, none, none, none, none, 102⟩) (reservedOne 0)
        ⟨1, false, false, false, false, 102⟩].foldl (Ledger.apply Settings.live) twoPrepared).db :=
  (ledger_exact_of_own_finishes Settings.live twoPrepared_fresh
    (Runs.Allowed.reaches (by decide +kernel))).1

/-- The first call is recovered as stale and its row reset for another attempt
while its worker still holds the reservation; that worker's failure then takes
the reservation of the second call out of the bucket. -/
def finishAfterRetry : List LedgerOp :=
  [.reserve (reserveOne 0), .reserve (reserveOne 1), .reconcile 50 (some 0) 200,
    .retry 0 ⟨false, false, "c", none, none, 201⟩,
    .finish (some ⟨.failedBeforeNetwork, none, none, none, none, 202⟩) (reservedOne 0)
      ⟨0, true, false, false, false, 202⟩]

theorem ledger_not_exact_after_retry :
    ¬ ∀ (settings : Settings) (start s : Ledger), start.Fresh →
      Runs.Reaches Called (Ledger.Step settings) start s →
      Exact s.db ∧ ∀ op, Called s op → ¬ Truncates s op := by
  intro claimed
  have run : Runs.Reaches Called (Ledger.Step Settings.live) twoPrepared
      (finishAfterRetry.foldl (Ledger.apply Settings.live) twoPrepared) :=
    Runs.Allowed.reaches (by decide +kernel)
  have exact := (claimed _ _ _ twoPrepared_fresh run).1.reserved ⟨0, .testing, "dataforseo", ""⟩
  revert exact
  decide +kernel

end RankRent.CostControls
