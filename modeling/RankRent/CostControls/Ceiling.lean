import RankRent.CostControls.LedgerRuns

/-!
# Daily ceilings

The limits are checked when a reservation is made, against the three counters
together. Without resets of a row a reservation is finished by its own worker
or closed before, so every later transaction only lowers the sum.
-/

namespace RankRent.CostControls

/-- Every daily summary is within its limits. -/
structure Ceiling (settings : Settings) (usage : List ProviderDailyUsage) : Prop where
  production : ∀ day provider,
    (lockedBucket usage ⟨day, .production, provider, ""⟩).committed ≤ settings.productionDailySpend
  testing : ∀ day provider,
    (lockedBucket usage ⟨day, .testing, provider, ""⟩).committed ≤ settings.testingDailySpend
  requests : ∀ day provider,
    (lockedBucket usage ⟨day, .production, provider, ""⟩).requestCount ≤
      settings.productionDailyRequestLimit

/-! ## Transactions that commit no more -/

theorem Moves.committed {usage : List ProviderDailyUsage} {day : Date} {cls : UsageClass}
    {provider endpoint : String} {change : ProviderDailyUsage → ProviderDailyUsage} {dn : ℚ}
    {dr ds du : Usd} (moves : Moves usage day cls provider endpoint change dn dr ds du)
    (key : UsageKey) :
    (lockedBucket (postBuckets day cls provider endpoint change usage) key).committed =
      (lockedBucket usage key).committed +
        (if UsageKey.Touched day cls provider endpoint key then dr + ds + du else 0) ∧
    ((lockedBucket (postBuckets day cls provider endpoint change usage) key).requestCount : ℚ) =
      (lockedBucket usage key).requestCount +
        if UsageKey.Touched day cls provider endpoint key then dn else 0 := by
  rw [lockedBucket_postBuckets moves.keeps moves.named]
  by_cases touched : UsageKey.Touched day cls provider endpoint key
  · simp only [touched, ↓reduceIte]
    refine ⟨?_, moves.requests key touched⟩
    simp only [ProviderDailyUsage.committed, moves.spend key touched, moves.reserved key touched,
      moves.unreconciled key touched]
    ring
  · simp only [touched, ↓reduceIte, add_zero, and_self]

theorem Ceiling.balanced {settings : Settings} {db db' : Database} {added : Usd}
    (ceiling : Ceiling settings db.usage) (balanced : Balanced db db' 0 added) (lowers : added ≤ 0) :
    Ceiling settings db'.usage := by
  have bucket (key : UsageKey) :
      (lockedBucket db'.usage key).committed ≤ (lockedBucket db.usage key).committed ∧
      (lockedBucket db'.usage key).requestCount = (lockedBucket db.usage key).requestCount := by
    cases balanced with
    | rows reserved unknown => exact ⟨le_refl _, rfl⟩
    | posting calls moves reserved unknown =>
      obtain ⟨committed, requests⟩ := moves.committed key
      constructor
      · rw [postUsage_usage, committed]
        split
        · linarith
        · linarith
      · rw [postUsage_usage]
        rw [ite_self, add_zero] at requests
        exact_mod_cast requests
  refine ⟨fun day provider => ?_, fun day provider => ?_, fun day provider => ?_⟩
  · exact (bucket _).1.trans (ceiling.production day provider)
  · exact (bucket _).1.trans (ceiling.testing day provider)
  · rw [(bucket _).2]
    exact ceiling.requests day provider

/-- A granted reservation stays within the limits it was checked against. -/
theorem Ceiling.grant {settings : Settings} {db : Database} {q : ReserveRequest}
    (ceiling : Ceiling settings (lockedUsage db q).usage) (named : q.endpoint ≠ "")
    (limits : WithinLimits settings (lockedBucket (lockedUsage db q).usage
      ⟨date q.now, usageClass q.environment, q.provider, ""⟩) q) :
    Ceiling settings (grantedUsage db q).usage := by
  have moves := moves_reserve (lockedUsage db q).usage (date q.now) (usageClass q.environment)
    q.provider named q.estimatedCost q.cacheMiss
  have posted (key : UsageKey) := moves.committed key
  have summary {day : Date} {cls : UsageClass} {provider : String}
      (touched : UsageKey.Touched (date q.now) (usageClass q.environment) q.provider q.endpoint
        ⟨day, cls, provider, ""⟩) :
      usageClass q.environment = cls ∧
        (⟨day, cls, provider, ""⟩ : UsageKey) =
          ⟨date q.now, usageClass q.environment, q.provider, ""⟩ := by
    obtain ⟨rfl, rfl, rfl, -⟩ := touched
    exact ⟨rfl, rfl⟩
  refine ⟨fun day provider => ?_, fun day provider => ?_, fun day provider => ?_⟩
  · refine (posted _).1.trans_le ?_
    split
    · obtain ⟨cls, key⟩ := summary ‹_›
      rw [key, add_zero, add_zero]
      exact limits.production cls
    · rw [add_zero]
      exact ceiling.production day provider
  · refine (posted _).1.trans_le ?_
    split
    · obtain ⟨cls, key⟩ := summary ‹_›
      rw [key, add_zero, add_zero]
      exact limits.testing cls
    · rw [add_zero]
      exact ceiling.testing day provider
  · have count := (posted ⟨day, .production, provider, ""⟩).2
    split at count
    · obtain ⟨cls, key⟩ := summary ‹_›
      have below := limits.requests cls
      rw [← key] at below
      have raised : (lockedBucket (grantedUsage db q).usage ⟨day, .production, provider, ""⟩).requestCount =
          (lockedBucket (lockedUsage db q).usage ⟨day, .production, provider, ""⟩).requestCount + 1 := by
        exact_mod_cast count
      rw [raised]
      exact below
    · rw [add_zero] at count
      have same : (lockedBucket (grantedUsage db q).usage ⟨day, .production, provider, ""⟩).requestCount =
          (lockedBucket (lockedUsage db q).usage ⟨day, .production, provider, ""⟩).requestCount := by
        exact_mod_cast count
      rw [same]
      exact ceiling.requests day provider

/-! ## A reservation is finished once -/

/-- Every row kept its reservation or closed it. -/
def Progress (calls calls' : List ApiCall) : Prop :=
  ∀ (i : Nat) row, calls[i]? = some row → ∃ new, calls'[i]? = some new ∧
    (new.reservationState.closed = true ∨ SameReservation row new)

theorem Progress.refl (calls : List ApiCall) : Progress calls calls :=
  fun _ row found => ⟨row, found, Or.inr ⟨rfl, rfl, rfl, rfl, rfl, rfl⟩⟩

theorem Progress.trans {a b c : List ApiCall} (first : Progress a b) (second : Progress b c) :
    Progress a c := by
  intro i row found
  obtain ⟨mid, there, first⟩ := first i row found
  obtain ⟨new, ends, second⟩ := second i mid there
  refine ⟨new, ends, ?_⟩
  rcases second with closed | same
  · exact Or.inl closed
  · rcases first with closed | before
    · exact Or.inl (same.state ▸ closed)
    · exact Or.inr ⟨same.state.trans before.state, same.day.trans before.day,
        same.cls.trans before.cls, same.cost.trans before.cost,
        same.provider.trans before.provider, same.endpoint.trans before.endpoint⟩

theorem Progress.set {calls : List ApiCall} {i : Nat} {old new : ApiCall}
    (found : calls[i]? = some old)
    (moves : new.reservationState.closed = true ∨ SameReservation old new) :
    Progress calls (calls.set i new) := by
  intro j row there
  by_cases same : i = j
  · subst same
    have bound := (List.getElem?_eq_some_iff.mp found).1
    rw [found] at there
    cases there
    exact ⟨new, List.getElem?_set_self bound, moves⟩
  · rw [List.getElem?_set_ne same]
    exact Progress.refl calls j row there

theorem Progress.append (calls : List ApiCall) (row : ApiCall) : Progress calls (calls ++ [row]) := by
  intro i old found
  have bound := (List.getElem?_eq_some_iff.mp found).1
  exact ⟨old, by rw [List.getElem?_append_left bound]; exact found,
    Or.inr ⟨rfl, rfl, rfl, rfl, rfl, rfl⟩⟩

/-- Every reservation handed out is still its row's, or was closed. -/
def Handed (s : Ledger) : Prop :=
  ∀ r ∈ s.issued, ∃ i row, r.apiCallId = some i ∧ s.db.calls[i]? = some row ∧
    (row.reservationState.closed = true ∨ Owns row r)

theorem Handed.progress {s t : Ledger} (handed : Handed s)
    (moves : Progress s.db.calls t.db.calls) (issued : t.issued = s.issued) : Handed t := by
  intro r member
  obtain ⟨i, row, target, found, finds⟩ := handed r (issued ▸ member)
  obtain ⟨new, there, moved⟩ := moves i row found
  refine ⟨i, new, target, there, ?_⟩
  rcases moved with closed | same
  · exact Or.inl closed
  · exact finds.imp (fun closed => same.state ▸ closed) same.owns

/-- A row without a reservation was handed to nobody. -/
theorem Handed.grant {s : Ledger} (handed : Handed s) {i : Nat} {row : ApiCall}
    (found : s.db.calls[i]? = some row) (free : row.reservationState = .none) {t : Ledger}
    {new : ApiCall} {r : UsageReservation} (target : r.apiCallId = some i) (owns : Owns new r)
    (calls : t.db.calls = s.db.calls.set i new) (issued : t.issued = r :: s.issued) : Handed t := by
  intro other member
  rw [issued] at member
  rw [calls]
  rcases List.mem_cons.mp member with rfl | member
  · have bound := (List.getElem?_eq_some_iff.mp found).1
    exact ⟨i, new, target, List.getElem?_set_self bound, Or.inr owns⟩
  · obtain ⟨j, old, aim, there, finds⟩ := handed other member
    have differs : i ≠ j := by
      rintro rfl
      rw [found] at there
      cases there
      rcases finds with closed | owned
      · rw [free] at closed
        cases closed
      · rw [owned.state] at free
        cases free
    exact ⟨j, old, aim, by rw [List.getElem?_set_ne differs]; exact there, finds⟩

/-! ## Runs within the estimates -/

/-- The run's promise: no row is reset, and what a call is charged is at most
what was reserved for it. -/
def WithinEstimates (s : Ledger) : LedgerOp → Prop
  | .finish _ r q => q.actualCost ≤ r.estimatedCost
  | .resolve i _ actual _ _ => ∀ row ∈ s.db.calls[i]?, actual ≤ row.reservationEstimatedCost
  | .retry _ _ => False
  | _ => True

instance (s : Ledger) : (op : LedgerOp) → Decidable (WithinEstimates s op)
  | .finish _ r q => inferInstanceAs (Decidable (q.actualCost ≤ r.estimatedCost))
  | .resolve i _ actual _ _ =>
    inferInstanceAs (Decidable (∀ row ∈ s.db.calls[i]?, actual ≤ row.reservationEstimatedCost))
  | .retry .. => inferInstanceAs (Decidable False)
  | .prepare .. => inferInstanceAs (Decidable True)
  | .reserve _ => inferInstanceAs (Decidable True)
  | .submit .. => inferInstanceAs (Decidable True)
  | .reconcile .. => inferInstanceAs (Decidable True)

/-- The invariant of such a run. -/
structure Capped (settings : Settings) (s : Ledger) : Prop where
  sound : Sound s.db
  handed : Handed s
  ceiling : Ceiling settings s.db.usage

theorem Capped.findsOwn {settings : Settings} {s : Ledger} (capped : Capped settings s)
    {op : LedgerOp} (called : Called s op) : FindsOwn s op := by
  cases op with
  | finish record r q => exact capped.handed r called
  | prepare => exact trivial
  | reserve => exact trivial
  | submit => exact trivial
  | reconcile => exact trivial
  | resolve => exact trivial
  | retry => exact trivial

/-- One transaction keeps the reservations handed out. -/
theorem Capped.handed_apply {settings : Settings} {s : Ledger} (capped : Capped settings s)
    {op : LedgerOp} (called : Called s op) (within : WithinEstimates s op) :
    Handed (s.apply settings op) := by
  have sound := capped.sound
  cases op with
  | prepare scan planned provider endpoint cacheKey estimate p =>
    exact capped.handed.progress (Progress.append _ _) rfl
  | reserve q =>
    obtain same | refused | ⟨i, row, -, found, free, -, provider, endpoint, -, granted⟩ :=
      reserve_cases settings called
    · rw [same]; exact capped.handed
    · rw [refused]; exact capped.handed.progress (Progress.refl _) rfl
    · rw [granted]
      exact capped.handed.grant found free rfl ⟨rfl, rfl, rfl, rfl, provider, endpoint⟩ rfl rfl
  | submit r lease now =>
    obtain same | ⟨i, row, -, found, -, marked⟩ := submit_cases settings
    · rw [same]; exact capped.handed
    · rw [marked]
      exact capped.handed.progress (Progress.set found (Or.inr (sameReservation_submit row now))) rfl
  | finish record r q =>
    obtain ⟨i, row, target, found, -⟩ := capped.handed r called
    cases state : row.reservationState.closed with
    | true =>
      rw [(finish_cases settings target found).1 state]
      exact capped.handed.progress
        (Progress.set found (Or.inr (sameReservation_recorded record row))) rfl
    | false =>
      rw [(finish_cases settings target found).2 state]
      exact capped.handed.progress
        (Progress.set found (Or.inl (by cases q.providerOutcomeUnknown <;> rfl))) rfl
  | reconcile staleBefore scan now =>
    have moves : Progress s.db.calls
        (reconcileStaleApiCallAttempts s.db staleBefore scan now).calls := by
      refine (reconcile_invariant (I := fun db => Progress s.db.calls db.calls) ?_ sound
        (Progress.refl _)).2.1
      intro db i row sound before found stale
      obtain ⟨new, -, -, -, -, moved, calls⟩ :=
        reconcileAttempt_step sound found (staleAttempt_live stale) now
      rw [calls]
      exact before.trans (Progress.set found moved)
    exact capped.handed.progress moves rfl
  | resolve i outcome actual note now =>
    obtain same | ⟨row, found, -, -, ⟨-, resolved⟩ | ⟨day, -, resolved⟩⟩ := resolve_cases settings
    · rw [same]; exact capped.handed
    · rw [resolved]; exact capped.handed.progress (Progress.set found (Or.inl rfl)) rfl
    · rw [resolved]; exact capped.handed.progress (Progress.set found (Or.inl rfl)) rfl
  | retry i p => exact within.elim

/-- One transaction keeps the ceilings. -/
theorem Capped.ceiling_apply {settings : Settings} {s : Ledger} (capped : Capped settings s)
    {op : LedgerOp} (called : Called s op) (within : WithinEstimates s op) :
    Ceiling settings (s.apply settings op).db.usage := by
  have sound := capped.sound
  cases op with
  | prepare scan planned provider endpoint cacheKey estimate p => exact capped.ceiling
  | reserve q =>
    have locked : Ceiling settings (lockedUsage s.db q).usage :=
      capped.ceiling.balanced (balanced_lock s.db called.1) (le_refl 0)
    obtain same | refused | ⟨i, row, -, -, -, -, -, -, limits, granted⟩ :=
      reserve_cases settings called
    · rw [same]; exact capped.ceiling
    · rw [refused]; exact locked
    · rw [granted]; exact locked.grant called.1 limits
  | submit r lease now =>
    obtain same | ⟨i, row, -, -, -, marked⟩ := submit_cases settings
    · rw [same]; exact capped.ceiling
    · rw [marked]; exact capped.ceiling
  | finish record r q =>
    obtain ⟨i, row, target, found, closed | owns⟩ := capped.handed r called
    · rw [(finish_cases settings target found).1 closed]; exact capped.ceiling
    · have positive : 0 ≤ r.estimatedCost := owns.cost ▸ (sound.rows.get found).estimate
      have charged : q.actualCost ≤ r.estimatedCost := within
      rw [(finish_cases settings target found).2 (by rw [owns.state]; rfl)]
      refine capped.ceiling.balanced
        (balanced_finish sound found (sameReservation_recorded record row) owns q) ?_
      split
      · exact le_refl 0
      · exact sub_nonpos.mpr (max_le positive charged)
  | reconcile staleBefore scan now =>
    refine (reconcile_invariant (I := fun db => Ceiling settings db.usage) ?_ sound
      capped.ceiling).2.1
    intro db i row sound ceiling found stale
    obtain ⟨new, added, balanced, lowers, -⟩ :=
      reconcileAttempt_step sound found (staleAttempt_live stale) now
    exact ceiling.balanced balanced lowers
  | resolve i outcome actual note now =>
    obtain same | ⟨row, found, awaits, -, ⟨-, resolved⟩ | ⟨day, reserved, resolved⟩⟩ :=
      resolve_cases settings
    · rw [same]; exact capped.ceiling
    · rw [resolved]; exact capped.ceiling
    · have state := (sound.rows.get found).unknown_of_awaits awaits reserved
      rw [resolved]
      exact capped.ceiling.balanced
        (balanced_resolve sound found state reserved outcome actual note now)
        (sub_nonpos.mpr (within row found))
  | retry i p => exact within.elim

theorem Capped.apply {settings : Settings} {s : Ledger} (capped : Capped settings s) {op : LedgerOp}
    (called : Called s op) (within : WithinEstimates s op) :
    Capped settings (s.apply settings op) :=
  ⟨capped.sound.apply called (capped.findsOwn called), capped.handed_apply called within,
    capped.ceiling_apply called within⟩

theorem Ledger.Fresh.capped (settings : Settings) {s : Ledger} (fresh : s.Fresh) :
    Capped settings s where
  sound := fresh.sound
  handed := by
    intro r member
    rw [fresh.issued] at member
    cases member
  ceiling := by
    have unspent (key : UsageKey) : (lockedBucket [] key).committed = 0 := by
      simp [lockedBucket_nil, ProviderDailyUsage.committed, ProviderDailyUsage.empty]
    rw [fresh.usage]
    exact ⟨fun _ _ => (unspent _).trans_le settings.productionDailySpend_nonneg,
      fun _ _ => (unspent _).trans_le settings.testingDailySpend_nonneg, fun _ _ => Nat.zero_le _⟩

end RankRent.CostControls
