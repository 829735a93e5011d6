import RankRent.Provider.SingleSend
import RankRent.Provider.Slots

/-!
# Spend against the reported cost of a scan

`build_api_cost_ledger` of `services/discovery_report.py` sums what is recorded on
the call rows of a scan; the daily buckets are posted to by other calls. Beside the
store, what the calls of each scan add to the summary buckets is kept.
-/

namespace RankRent.Provider

open CostControls

/-! ## What the calls of a scan add -/

/-- The workers, with what the calls of each scan have added to `spend_usd` of the
summary buckets. -/
structure Billed where
  fleet : Fleet
  posted : Nat → Usd

/-- The scan whose call a commit is about. -/
def FleetOp.scan (s : Fleet) : FleetOp → Option Nat
  | .request e _ => (s.lease e).map ScanExecutionLease.scanId
  | .resolve i _ _ _ _ => s.calls[i]?.bind ApiCall.scanRunId
  | .work _ => none
  | .reconcile _ _ => none

def Billed.apply (settings : Settings) (s : Billed) (op : FleetOp) : Billed where
  fleet := s.fleet.apply settings op
  posted := match op.scan s.fleet with
    | none => s.posted
    | some scan => Function.update s.posted scan (s.posted scan +
        (summarySpend (s.fleet.apply settings op).usage - summarySpend s.fleet.usage))

def Billed.Step (settings : Settings) (s : Billed) (op : FleetOp) (t : Billed) : Prop :=
  t = s.apply settings op

/-- A whole number of millionths. -/
def Micro (cost : Usd) : Prop := (cost * 10 ^ 6).den = 1

/-- How `live.py` makes the calls: paths are not empty, and the row and the
buckets get the cost of the same payload. -/
def Posts (s : Fleet) : FleetOp → Prop
  | .request e event =>
    match s.requests e with
    | .taken a => (∀ r ∈ a.reservation, r.endpoint ≠ "") ∧
        match event with
        | .complete c => c.payload.cost = c.actualCost
        | _ => True
    | _ => True
  | .resolve i _ _ _ _ => ∀ row ∈ s.calls[i]?, row.endpoint ≠ ""
  | _ => True

/-- A completion or a resolution finds no cost on its row, a resolution finds the
reservation it posts to, and a failure comes without a parsed cost. -/
def BooksCost (s : Fleet) : FleetOp → Prop
  | .request e event =>
    match s.requests e with
    | .taken a =>
      match event with
      | .complete c => 0 ≤ c.actualCost ∧ Micro c.actualCost ∧ ∀ stored ∈ s.calls[a.row]?,
          if c.actualCost = a.seen.actualCost then c.actualCost = 0 else stored.actualCost = 0
      | .fail f => a.reservation.isSome → f.ambiguous a.seen true = false → f.payloadCost.getD 0 ≤ 0
      | _ => True
    | _ => True
  | .resolve i _ actual _ _ => Micro actual ∧ ∀ row ∈ s.calls[i]?, row.awaitsOutcome = true →
      if row.reservationUsageDate.isSome then row.actualCost = 0 else actual = row.actualCost
  | _ => True

/-- The recorded cost of a scan. -/
def scanCost (calls : List ApiCall) (scan : Nat) : Usd :=
  (calls.map fun row => if row.scanRunId = some scan then row.actualCost else 0).sum

theorem scanCost_set {calls : List ApiCall} {i : Nat} {old new : ApiCall}
    (found : calls[i]? = some old) (run : new.scanRunId = old.scanRunId) (scan : Nat) :
    scanCost (calls.set i new) scan = scanCost calls scan +
      if old.scanRunId = some scan then new.actualCost - old.actualCost else 0 := by
  have set := Table.sum_map_set
    (fun row : ApiCall => if row.scanRunId = some scan then row.actualCost else 0) new found
  simp only [run] at set
  unfold scanCost
  rw [set]
  split <;> simp

theorem scanCost_append {row : ApiCall} (free : row.actualCost = 0) (calls : List ApiCall)
    (scan : Nat) : scanCost (calls ++ [row]) scan = scanCost calls scan := by
  simp [scanCost, free]

theorem scanCost_congr {calls left : List ApiCall} (length : left.length = calls.length)
    (rows : ∀ (i : Nat) old, calls[i]? = some old → ∃ new, left[i]? = some new ∧
      new.scanRunId = old.scanRunId ∧ new.actualCost = old.actualCost) (scan : Nat) :
    scanCost left scan = scanCost calls scan := by
  unfold scanCost
  congr 1
  apply List.ext_getElem?
  intro i
  rw [List.getElem?_map, List.getElem?_map]
  cases found : calls[i]? with
  | none =>
    have short := List.getElem?_eq_none_iff.mp found
    have none : left[i]? = none := List.getElem?_eq_none_iff.mpr (by omega)
    rw [none]
  | some old =>
    obtain ⟨new, after, run, cost⟩ := rows i old found
    rw [after]
    simp only [Option.map_some, run, cost]

/-! ## One commit -/

/-- A commit adds one amount to the summary buckets and to the rows of the scan. -/
structure Adds (s t : Fleet) (scan : Option Nat) (added : Usd) : Prop where
  micro : Micro added
  buckets : summarySpend t.usage = summarySpend s.usage + added
  rows : ∀ n, scanCost t.calls n = scanCost s.calls n + if scan = some n then added else 0

theorem micro_zero : Micro 0 := by
  simp [Micro]

theorem Micro.add {x y : Usd} (left : Micro x) (right : Micro y) : Micro (x + y) := by
  unfold Micro at *
  rw [add_mul, ← Rat.num_div_den (x * 10 ^ 6), ← Rat.num_div_den (y * 10 ^ 6), left, right]
  simp only [Nat.cast_one, div_one]
  rw [← Int.cast_add]
  exact Rat.den_intCast _

theorem abandoned_actualCost (now : DateTime) (row : ApiCall) :
    (abandoned now row).actualCost = row.actualCost := by
  unfold abandoned ApiCall.abandon
  split <;> split <;> rfl

/-- The cost a closed request leaves on its row: that of the payload it was given,
or the one it had. -/
theorem Attempt.Shaped.closedRow_actualCost {a : Attempt} (shaped : a.Shaped) (stored : ApiCall)
    (record : CallRecord) (q : FinishRequest) :
    (a.closedRow stored record q).actualCost =
      match record.payload with
      | some payload => written a.seen.actualCost payload.cost stored.actualCost
      | none => stored.actualCost := by
  have known : a.seen.status ≠ .providerOutcomeUnknown := by
    cases reservation : a.reservation with
    | none => rw [(shaped.unreserved reservation).2.2.1]; decide
    | some r =>
      obtain ⟨-, -, ⟨-, -, status⟩ | ⟨-, -, status⟩⟩ := shaped.reserved r reservation
      · rw [status]; decide
      · rw [status]; decide
  have finished : (a.seen.finish record).actualCost =
      match record.payload with
      | some payload => payload.cost
      | none => a.seen.actualCost :=
    congrArg ApiCall.actualCost (if_neg fun both => known both.1)
  have settled : ((a.seen.finish record).settle q.providerOutcomeUnknown q.now).actualCost =
      (a.seen.finish record).actualCost := by
    cases q.providerOutcomeUnknown <;> rfl
  have flushed : (a.closedRow stored record q).actualCost =
      written a.seen.actualCost (a.seen.finish record).actualCost stored.actualCost := by
    unfold Attempt.closedRow
    split
    · rfl
    · simp only [Provider.closedRow, ApiCall.flush, settled, written_unchanged]
  rw [flushed, finished]
  cases record.payload with
  | none => exact written_unchanged _ _
  | some payload => rfl

section Commits
variable {settings : Settings} {s : Fleet}

/-- A commit that leaves the recorded costs and the spend. -/
theorem adds_nothing {t : Fleet} (buckets : summarySpend t.usage = summarySpend s.usage)
    (rows : ∀ n, scanCost t.calls n = scanCost s.calls n) (scan : Option Nat) :
    Adds s t scan 0 where
  micro := micro_zero
  buckets := by rw [buckets, add_zero]
  rows n := by rw [rows n, ite_self, add_zero]

/-- One row is rewritten, by a commit that adds the difference to the buckets. -/
theorem adds_row {t : Fleet} {i : Nat} {old new : ApiCall} (found : s.calls[i]? = some old)
    (set : t.calls = s.calls.set i new) (run : new.scanRunId = old.scanRunId)
    (micro : Micro (new.actualCost - old.actualCost))
    (buckets : summarySpend t.usage = summarySpend s.usage + (new.actualCost - old.actualCost)) :
    Adds s t old.scanRunId (new.actualCost - old.actualCost) where
  micro := micro
  buckets := buckets
  rows n := by rw [set, scanCost_set found run]

/-- What the end of a request adds to the summary buckets. -/
theorem Attempt.Shaped.summarySpend_closeCall {a : Attempt} (shaped : a.Shaped) (db : Database)
    {stored : ApiCall} (there : db.calls[a.row]? = some stored)
    (named : ∀ r ∈ a.reservation, r.endpoint ≠ "") (record : CallRecord) (q : FinishRequest) :
    summarySpend (closeCall db a.row a.seen a.reservation record q).usage = summarySpend db.usage +
      if a.reservation.isSome ∧ q.providerOutcomeUnknown = false then max 0 q.actualCost else 0 := by
  cases reservation : a.reservation with
  | none => simp [closeCall]
  | some r =>
    obtain ⟨target, state, -⟩ := shaped.reserved r reservation
    rw [closeCall_open there target (by rw [state]; rfl)]
    change summarySpend (postBuckets _ _ _ _ _ _) = _
    rw [summarySpend_postBuckets (keepsKey_finish _ _) (named r reservation)]
    cases unknown : q.providerOutcomeUnknown with
    | true => simp [finishUsage, unknown]
    | false => simp [finishUsage, unknown]

theorem resolve_adds {i : Nat} {outcome : ResolvedOutcome} {actual : Usd} {note : String}
    {now : DateTime} (posts : Posts s (.resolve i outcome actual note now))
    (books : BooksCost s (.resolve i outcome actual note now)) :
    ∃ added, Adds s (s.apply settings (.resolve i outcome actual note now))
      (FleetOp.scan s (.resolve i outcome actual note now)) added := by
  simp only [Fleet.apply, FleetOp.scan]
  cases resolved : resolveUnknownProviderCall s.db i outcome actual note now with
  | error e => exact ⟨0, adds_nothing rfl (fun _ => rfl) _⟩
  | ok db =>
    obtain ⟨-, row, found, awaits, eq⟩ := resolveUnknownProviderCall_ok resolved
    have there : s.calls[i]? = some row := found
    let new := row.resolve outcome actual note now
    have cost : new.actualCost = actual := rfl
    have fits := books.2 row there awaits
    have left : db.calls = s.calls.set i new ∧
        summarySpend db.usage = summarySpend s.usage + (new.actualCost - row.actualCost) ∧
        Micro (new.actualCost - row.actualCost) := by
      rw [cost]
      rcases eq with ⟨undated, rfl⟩ | ⟨day, dated, rfl⟩
      · have same : actual = row.actualCost := by simpa [undated] using fits
        have nothing : actual - row.actualCost = 0 := sub_eq_zero.mpr same
        rw [Database.putCall_none found, nothing, add_zero]
        exact ⟨rfl, rfl, micro_zero⟩
      · have free : row.actualCost = 0 := by simpa [dated] using fits
        rw [Database.putCall_none (by rw [postUsage_calls]; exact found), free, sub_zero]
        refine ⟨rfl, ?_, books.1⟩
        have posted := summarySpend_postBuckets (keepsKey_resolve row.reservationEstimatedCost actual)
          (posts row there) s.db.usage day (row.reservationUsageClass.getD .testing) row.provider
        simp only [resolveUsage, add_sub_cancel_left] at posted
        exact posted
    obtain ⟨set, buckets, micro⟩ := left
    rw [there]
    exact ⟨_, adds_row (t := s.store db) there set rfl micro buckets⟩

/-- Every way a request ends without adding a cost, or adds the one it records. -/
theorem closing_cost {a : Attempt} (shaped : a.Shaped) {e : Nat} {event : RequestOp}
    {record : CallRecord} {q : FinishRequest} (taken : s.requests e = .taken a)
    (closing : Closing settings a event record q) (posts : Posts s (.request e event))
    (books : BooksCost s (.request e event)) {stored : ApiCall}
    (there : s.calls[a.row]? = some stored) :
    (a.closedRow stored record q).actualCost - stored.actualCost =
        (if a.reservation.isSome ∧ q.providerOutcomeUnknown = false then max 0 q.actualCost else 0) ∧
      Micro ((a.closedRow stored record q).actualCost - stored.actualCost) := by
  rw [shaped.closedRow_actualCost]
  simp only [Posts, taken] at posts
  simp only [BooksCost, taken] at books
  cases closing with
  | completed c sent reserved =>
    obtain ⟨positive, micro, fits⟩ := books
    have fits := fits stored there
    have cost : c.payload.cost = c.actualCost := posts.2
    have added : written a.seen.actualCost c.payload.cost stored.actualCost - stored.actualCost =
        c.actualCost := by
      rw [cost]
      unfold written
      split at fits
      · rename_i same
        rw [if_pos same, sub_self, fits]
      · rename_i differs
        rw [if_neg differs, fits, sub_zero]
    simp only [CallCompletion.record, CallCompletion.request, reserved, true_and, ↓reduceIte, added,
      max_eq_right positive]
    exact micro
  | failed f =>
    simp only [CallFailure.record, sub_self]
    refine ⟨?_, micro_zero⟩
    split
    · rename_i known
      obtain ⟨reserved, known⟩ := known
      rw [reserved] at known
      exact (max_eq_left (books reserved known)).symm
    · rfl
  | cancelled now sent reserved =>
    simp only [cancelRecord, cancelRequest, sent, sub_self, Bool.true_eq_false, and_false, ↓reduceIte]
    exact ⟨trivial, micro_zero⟩

/-- An event of a request adds one amount to both. -/
theorem request_adds (filed : s.Filed) {e : Nat} {event : RequestOp}
    (posts : Posts s (.request e event)) (books : BooksCost s (.request e event)) :
    ∃ added, Adds s (s.apply settings (.request e event)) (FleetOp.scan s (.request e event)) added := by
  cases leased : s.lease e with
  | none =>
    refine ⟨0, adds_nothing ?_ ?_ _⟩
    · simp only [Fleet.apply, leased]
    · simp only [Fleet.apply, leased, implies_true]
  | some lease =>
    obtain ⟨db, state, move, eq⟩ := apply_request settings leased (filed.shaped e) event
    rw [eq]
    generalize at_ : s.requests e = before at move
    have keeps (buckets : summarySpend db.usage = summarySpend s.usage)
        (rows : ∀ n, scanCost db.calls n = scanCost s.calls n) :
        ∃ added, Adds s { s.store db with requests := Function.update s.requests e state }
          (FleetOp.scan s (.request e event)) added :=
      ⟨0, adds_nothing buckets rows _⟩
    have rewrites {i : Nat} {old new : ApiCall} (there : s.calls[i]? = some old)
        (set : db.calls = s.calls.set i new) (run : new.scanRunId = old.scanRunId)
        (cost : new.actualCost = old.actualCost) (n : Nat) :
        scanCost db.calls n = scanCost s.calls n := by
      rw [set, scanCost_set there run, cost, sub_self, ite_self, add_zero]
    cases move with
    | waits => exact keeps rfl (fun _ => rfl)
    | refused untaken usage spend => exact keeps spend (fun _ => rfl)
    | selects => exact keeps rfl (fun _ => rfl)
    | raises usage spend => exact keeps spend (fun _ => rfl)
    | @prepares site hit selection token force response now calls i row commits =>
      refine keeps rfl ?_
      cases selection with
      | existing j =>
        have same := commitCall_existing commits
        intro n
        exact congrArg (scanCost · n) same
      | retry j copy =>
        obtain ⟨stored, there, -, -, set⟩ := commitCall_retry commits
        exact rewrites there set (by simp [ApiCall.flush, ApiCall.retry])
          (by simp [ApiCall.flush, ApiCall.retry])
      | insert call =>
        obtain ⟨-, -, -, added⟩ := commitCall_insert commits
        intro n
        change scanCost calls n = _
        rw [added]
        exact scanCost_append rfl s.calls n
    | reserves held unreserved there target usage spend =>
      exact keeps spend (rewrites there rfl (by simp [ApiCall.flush, ApiCall.reserve])
        (by simp [ApiCall.flush, ApiCall.reserve]))
    | submits held reserved unsent there =>
      exact keeps rfl (rewrites there rfl (by simp [ApiCall.flush, ApiCall.submit])
        (by simp [ApiCall.flush, ApiCall.submit]))
    | @closes _ a record q closing =>
      have shaped := filed.shaped e a at_
      have copy := filed.taken e a at_
      obtain ⟨stored, there, run, -⟩ := copy.stored
      obtain ⟨owner, session, owned⟩ := filed.owner e a.site (by rw [at_]; rfl)
      have mine : stored.scanRunId = FleetOp.scan s (.request e event) := by
        rw [lease_of_session leased] at session
        cases session
        simp only [FleetOp.scan, leased, Option.map_some, owned]
        rw [run, copy.run]
      have named : ∀ r ∈ a.reservation, r.endpoint ≠ "" := by
        simp only [Posts, at_] at posts
        exact posts.1
      obtain ⟨difference, micro⟩ := closing_cost shaped at_ closing posts books there
      have buckets := shaped.summarySpend_closeCall s.db there named record q
      rw [← difference] at buckets
      rw [← mine]
      exact ⟨_, adds_row there (shaped.closeCall_calls there record q)
        (closedRow_identity a stored record q).1 micro buckets⟩

theorem summarySpend_reconcile (db : Database) (staleBefore : DateTime) (scan : Option Nat)
    (now : DateTime) :
    summarySpend (reconcileStaleApiCallAttempts db staleBefore scan now).usage =
      summarySpend db.usage := by
  unfold reconcileStaleApiCallAttempts
  generalize staleAttempts db staleBefore scan = ids
  induction ids generalizing db with
  | nil => rfl
  | cons i rest ih =>
    rw [List.foldl_cons, ih]
    cases found : db.calls[i]? with
    | none => simp only [reconcileAttempt, found]
    | some row =>
      obtain ⟨day, -, -, eq⟩ | ⟨-, eq⟩ := reconcileAttempt_cases found now
      · rw [eq, Database.putCall_usage]
        exact summarySpend_postBuckets_of_eq (keepsKey_release _ _) (fun _ => rfl) _ _ _ _ _
      · rw [eq, Database.putCall_usage]

theorem summarySpend_recoverScans (settings : Settings) (now : DateTime) (jitter : Nat → ℚ)
    (ids : List Nat) (db : Database) :
    summarySpend (ids.foldl (Worker.recoverScan settings now jitter) db).usage =
      summarySpend db.usage := by
  induction ids generalizing db with
  | nil => rfl
  | cons j ids ih =>
    rw [List.foldl_cons, ih]
    unfold Worker.recoverScan
    split
    · rfl
    · exact summarySpend_reconcile _ _ _ _

/-- A pass over the queue writes off attempts, and no cost. -/
theorem pass_adds (filed : s.Filed) {op : FleetOp} (passes : ∀ e event, op ≠ .request e event)
    (unresolved : ∀ i outcome actual note now, op ≠ .resolve i outcome actual note now)
    (buckets : summarySpend (s.apply settings op).usage = summarySpend s.usage) :
    Adds s (s.apply settings op) (op.scan s) 0 := by
  refine adds_nothing buckets ?_ _
  obtain ⟨length, rows⟩ | ⟨e, site, hit, call, p, inserted, -⟩ :=
    apply_calls settings filed.shaped op
  · refine scanCost_congr length ?_
    intro i old found
    obtain ⟨new, after, move⟩ := rows i old found
    refine ⟨new, after, move.identity.1, ?_⟩
    cases move with
    | kept same => rw [same]
    | abandoned now opened is => rw [is, abandoned_actualCost]
    | resolved outcome actual note now event => exact (unresolved _ _ _ _ _ event).elim
    | reset event => exact (passes _ _ event).elim
    | reserved event => exact (passes _ _ event).elim
    | submitted event => exact (passes _ _ event).elim
    | closed event => exact (passes _ _ event).elim
  · obtain ⟨_, _, _, _, _, event, -⟩ := inserted.event
    exact (passes _ _ event).elim

theorem apply_adds (settings : Settings) (filed : s.Filed) {op : FleetOp} (posts : Posts s op) (books : BooksCost s op) :
    ∃ added, Adds s (s.apply settings op) (op.scan s) added := by
  cases op with
  | work op =>
    refine ⟨0, pass_adds filed (by simp) (by simp) ?_⟩
    cases op with
    | recover staleAfter now jitter => exact summarySpend_recoverScans settings now jitter _ s.db
    | _ => rfl
  | reconcile staleBefore now =>
    exact ⟨0, pass_adds filed (by simp) (by simp) (summarySpend_reconcile s.db staleBefore none now)⟩
  | resolve i outcome actual note now => exact resolve_adds posts books
  | request e event => exact request_adds filed posts books

end Commits

/-! ## Runs -/

/-- No request is under way, and the books agree. -/
structure Billed.Opened (s : Billed) : Prop where
  idle : ∀ e, s.fleet.requests e = .idle
  unique : ∀ (i j : Nat) row other scan id, s.fleet.calls[i]? = some row →
    s.fleet.calls[j]? = some other → standsFor row scan id = true → standsFor other scan id = true →
    i = j
  posted : ∀ scan, s.posted scan = scanCost s.fleet.calls scan
  micro : ∀ scan, Micro (s.posted scan)

/-- What was posted for a scan is what its rows record. -/
structure Billed.Balanced (s : Billed) : Prop where
  filed : s.fleet.Filed
  posted : ∀ scan, s.posted scan = scanCost s.fleet.calls scan
  micro : ∀ scan, Micro (s.posted scan)

theorem Billed.Balanced.apply {settings : Settings} {s : Billed} (balanced : s.Balanced)
    {op : FleetOp} (posts : Posts s.fleet op) (books : BooksCost s.fleet op) :
    (s.apply settings op).Balanced := by
  obtain ⟨added, adds⟩ := apply_adds settings balanced.filed posts books
  have posted (scan : Nat) : (s.apply settings op).posted scan =
      s.posted scan + if op.scan s.fleet = some scan then added else 0 := by
    simp only [Billed.apply, adds.buckets, add_sub_cancel_left]
    cases at_ : op.scan s.fleet with
    | none => simp
    | some mine =>
      by_cases same : mine = scan
      · subst same
        simp
      · simp [same, Ne.symm same]
  refine ⟨balanced.filed.apply op, fun scan => ?_, fun scan => ?_⟩
  · rw [posted, balanced.posted]
    exact (adds.rows scan).symm
  · rw [posted]
    split
    · exact (balanced.micro scan).add adds.micro
    · rw [add_zero]
      exact balanced.micro scan

instance (cost : Usd) : Decidable (Micro cost) := inferInstanceAs (Decidable (_ = _))

instance (s : Fleet) : (op : FleetOp) → Decidable (Posts s op)
  | .request e event =>
    match at_ : s.requests e with
    | .taken a =>
      match event with
      | .complete c =>
        decidable_of_iff ((∀ r ∈ a.reservation, r.endpoint ≠ "") ∧ c.payload.cost = c.actualCost)
          (by simp only [Posts, at_])
      | .select .. | .prepare .. | .reserve .. | .submit .. | .fail .. | .cancel .. =>
        decidable_of_iff (∀ r ∈ a.reservation, r.endpoint ≠ "") (by simp only [Posts, at_, and_true])
    | .idle | .selected .. => isTrue (by simp only [Posts, at_])
  | .resolve i _ _ _ _ => decidable_of_iff (∀ row ∈ s.calls[i]?, row.endpoint ≠ "") Iff.rfl
  | .work .. | .reconcile .. => isTrue trivial

instance (s : Fleet) : (op : FleetOp) → Decidable (BooksCost s op)
  | .request e event =>
    match at_ : s.requests e with
    | .taken a =>
      match event with
      | .complete c =>
        decidable_of_iff (0 ≤ c.actualCost ∧ Micro c.actualCost ∧ ∀ stored ∈ s.calls[a.row]?,
          if c.actualCost = a.seen.actualCost then c.actualCost = 0 else stored.actualCost = 0)
          (by simp only [BooksCost, at_])
      | .fail f =>
        decidable_of_iff (a.reservation.isSome → f.ambiguous a.seen true = false →
          f.payloadCost.getD 0 ≤ 0) (by simp only [BooksCost, at_])
      | .select .. | .prepare .. | .reserve .. | .submit .. | .cancel .. =>
        isTrue (by simp only [BooksCost, at_])
    | .idle | .selected .. => isTrue (by simp only [BooksCost, at_])
  | .resolve i _ actual _ _ =>
    decidable_of_iff (Micro actual ∧ ∀ row ∈ s.calls[i]?, row.awaitsOutcome = true →
      if row.reservationUsageDate.isSome then row.actualCost = 0 else actual = row.actualCost) Iff.rfl
  | .work .. | .reconcile .. => isTrue trivial

end RankRent.Provider
