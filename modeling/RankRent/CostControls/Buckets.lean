import RankRent.CostControls.Operations
import Mathlib.Tactic.Linarith

/-!
# What a posting does to the buckets

Every operation posts to two buckets, the summary and the endpoint's own. One
lemma says which buckets a posting changes and one what it does to the sum over
the endpoints of a day; the rest of the development never unfolds `postUsage`.
-/

namespace RankRent.CostControls

/-- The buckets a posting for `endpoint` changes. -/
def UsageKey.Touched (day : Date) (cls : UsageClass) (provider endpoint : String)
    (key : UsageKey) : Prop :=
  key.usageDate = day ∧ key.usageClass = cls ∧ key.provider = provider ∧
    (key.endpoint = "" ∨ key.endpoint = endpoint)

instance (day : Date) (cls : UsageClass) (provider endpoint : String) (key : UsageKey) :
    Decidable (UsageKey.Touched day cls provider endpoint key) :=
  inferInstanceAs (Decidable (_ ∧ _ ∧ _ ∧ _))

/-- A change of counters: the key of the bucket stays. -/
def KeepsKey (change : ProviderDailyUsage → ProviderDailyUsage) : Prop :=
  ∀ b, (change b).toUsageKey = b.toUsageKey

theorem keepsKey_id : KeepsKey id := fun _ => rfl

theorem keepsKey_reserve (estimate : Usd) (miss : Bool) : KeepsKey (reserveUsage estimate miss) :=
  fun _ => rfl

theorem keepsKey_finish (estimate : Usd) (q : FinishRequest) : KeepsKey (finishUsage estimate q) :=
  fun _ => rfl

theorem keepsKey_release (estimate : Usd) (unknown : Bool) :
    KeepsKey (releaseUsage estimate unknown) := fun _ => rfl

theorem keepsKey_resolve (estimate actual : Usd) : KeepsKey (resolveUsage estimate actual) :=
  fun _ => rfl

theorem lockedBucket_nil (key : UsageKey) : lockedBucket [] key = .empty key := rfl

theorem lockedBucket_key (usage : List ProviderDailyUsage) (key : UsageKey) :
    (lockedBucket usage key).toUsageKey = key :=
  Table.key_lookup (fun _ => rfl) usage key

section Posting
variable {day : Date} {cls : UsageClass} {provider endpoint : String}
  {change : ProviderDailyUsage → ProviderDailyUsage}

@[simp] theorem postUsage_calls (db : Database) :
    (postUsage db day cls provider endpoint change).calls = db.calls := rfl

@[simp] theorem postUsage_scans (db : Database) :
    (postUsage db day cls provider endpoint change).scans = db.scans := rfl

@[simp] theorem postUsage_usage (db : Database) :
    (postUsage db day cls provider endpoint change).usage =
      postBuckets day cls provider endpoint change db.usage := rfl

theorem lockedBucket_updateBucket (keeps : KeepsKey change) (usage : List ProviderDailyUsage)
    (changed key : UsageKey) :
    lockedBucket (updateBucket changed change usage) key =
      if key = changed then change (lockedBucket usage changed) else lockedBucket usage key :=
  Table.lookup_upsert (fun _ => rfl) keeps usage changed key

/-- A posting changes the summary and the endpoint's bucket, and no other. -/
theorem lockedBucket_postBuckets (keeps : KeepsKey change) (hep : endpoint ≠ "")
    (usage : List ProviderDailyUsage) (key : UsageKey) :
    lockedBucket (postBuckets day cls provider endpoint change usage) key =
      if UsageKey.Touched day cls provider endpoint key then change (lockedBucket usage key)
      else lockedBucket usage key := by
  unfold postBuckets
  rw [lockedBucket_updateBucket keeps, lockedBucket_updateBucket keeps,
    lockedBucket_updateBucket keeps]
  obtain ⟨d, c, p, e⟩ := key
  simp only [UsageKey.mk.injEq, hep, and_false, ↓reduceIte, UsageKey.Touched]
  by_cases same : d = day ∧ c = cls ∧ p = provider
  · obtain ⟨rfl, rfl, rfl⟩ := same
    by_cases own : e = endpoint
    · simp [own]
    · by_cases summary : e = "" <;> simp [own, summary, Ne.symm hep]
  · have differs (P : Prop) : ¬(d = day ∧ c = cls ∧ p = provider ∧ P) :=
      fun h => same ⟨h.1, h.2.1, h.2.2.1⟩
    simp [differs]

end Posting

/-! ## The endpoints of one day -/

/-- An endpoint bucket of a date, class and provider. -/
def UsageKey.EndpointOf (day : Date) (cls : UsageClass) (provider : String) (key : UsageKey) : Prop :=
  key.usageDate = day ∧ key.usageClass = cls ∧ key.provider = provider ∧ key.endpoint ≠ ""

instance (day : Date) (cls : UsageClass) (provider : String) (key : UsageKey) :
    Decidable (UsageKey.EndpointOf day cls provider key) :=
  inferInstanceAs (Decidable (_ ∧ _ ∧ _ ∧ _))

/-- A quantity summed over the endpoint buckets of a date, class and provider. -/
def endpointTotal (usage : List ProviderDailyUsage) (day : Date) (cls : UsageClass)
    (provider : String) (w : ProviderDailyUsage → ℚ) : ℚ :=
  (usage.map fun b =>
    if UsageKey.EndpointOf day cls provider b.toUsageKey then w b else 0).sum

section Totals
variable {change : ProviderDailyUsage → ProviderDailyUsage} {w : ProviderDailyUsage → ℚ}

/-- A sum over the buckets whose key has a property moves with the one bucket
that is changed. -/
theorem sum_updateBucket (P : UsageKey → Prop) [DecidablePred P] (keeps : KeepsKey change)
    (usage : List ProviderDailyUsage) (changed : UsageKey) (zero : ∀ key, w (.empty key) = 0) :
    ((updateBucket changed change usage).map fun b => if P b.toUsageKey then w b else 0).sum =
      (usage.map fun b => if P b.toUsageKey then w b else 0).sum +
        if P changed then w (change (lockedBucket usage changed)) - w (lockedBucket usage changed)
        else 0 := by
  let weight (b : ProviderDailyUsage) : ℚ := if P b.toUsageKey then w b else 0
  have sum := Table.sum_upsert ProviderDailyUsage.toUsageKey ProviderDailyUsage.empty weight
    (fun key => by simp [weight, zero]) changed change usage
  have before : weight (lockedBucket usage changed) =
      if P changed then w (lockedBucket usage changed) else 0 := by
    simp only [weight, lockedBucket_key]
  have after : weight (change (lockedBucket usage changed)) =
      if P changed then w (change (lockedBucket usage changed)) else 0 := by
    have kept := keeps (lockedBucket usage changed)
    simp only [weight, kept, lockedBucket_key]
  change (List.map weight (Table.upsert _ _ changed change usage)).sum = (List.map weight usage).sum + _
  rw [sum]
  change _ + (weight (change (lockedBucket usage changed)) - weight (lockedBucket usage changed)) = _
  rw [before, after]
  split <;> simp

theorem endpointTotal_updateBucket (keeps : KeepsKey change) (usage : List ProviderDailyUsage)
    (changed : UsageKey) (day : Date) (cls : UsageClass) (provider : String)
    (zero : ∀ key, w (.empty key) = 0) :
    endpointTotal (updateBucket changed change usage) day cls provider w =
      endpointTotal usage day cls provider w +
        if UsageKey.EndpointOf day cls provider changed then
          w (change (lockedBucket usage changed)) - w (lockedBucket usage changed)
        else 0 :=
  sum_updateBucket (UsageKey.EndpointOf day cls provider) keeps usage changed zero

/-- A posting moves the sum over the endpoints by what it does to one of them. -/
theorem endpointTotal_postBuckets (keeps : KeepsKey change) {endpoint : String}
    (hep : endpoint ≠ "") (usage : List ProviderDailyUsage) (d day : Date) (c cls : UsageClass)
    (p provider : String) (zero : ∀ key, w (.empty key) = 0) :
    endpointTotal (postBuckets d c p endpoint change usage) day cls provider w =
      endpointTotal usage day cls provider w +
        if d = day ∧ c = cls ∧ p = provider then
          w (change (lockedBucket usage ⟨d, c, p, endpoint⟩)) -
            w (lockedBucket usage ⟨d, c, p, endpoint⟩)
        else 0 := by
  unfold postBuckets
  rw [endpointTotal_updateBucket keeps _ _ _ _ _ zero,
    endpointTotal_updateBucket keeps _ _ _ _ _ zero, lockedBucket_updateBucket keeps]
  simp [UsageKey.EndpointOf, hep]

end Totals

/-! ## The summaries -/

/-- `spend_usd` summed over all summary buckets. -/
def summarySpend (usage : List ProviderDailyUsage) : Usd :=
  (usage.map fun b => if b.endpoint = "" then b.spend else 0).sum

section Summaries
variable {change : ProviderDailyUsage → ProviderDailyUsage}

theorem summarySpend_updateBucket (keeps : KeepsKey change) (usage : List ProviderDailyUsage)
    (changed : UsageKey) :
    summarySpend (updateBucket changed change usage) = summarySpend usage +
      if changed.endpoint = "" then
        (change (lockedBucket usage changed)).spend - (lockedBucket usage changed).spend
      else 0 :=
  sum_updateBucket (fun key => key.endpoint = "") keeps usage changed (fun _ => rfl)

/-- A posting moves the summaries by what it does to one of them. -/
theorem summarySpend_postBuckets (keeps : KeepsKey change) {endpoint : String}
    (hep : endpoint ≠ "") (usage : List ProviderDailyUsage) (day : Date) (cls : UsageClass)
    (provider : String) :
    summarySpend (postBuckets day cls provider endpoint change usage) = summarySpend usage +
      ((change (lockedBucket usage ⟨day, cls, provider, ""⟩)).spend -
        (lockedBucket usage ⟨day, cls, provider, ""⟩).spend) := by
  unfold postBuckets
  rw [summarySpend_updateBucket keeps, summarySpend_updateBucket keeps]
  simp [hep]

/-- A posting that leaves the spend of each bucket leaves the summaries. -/
theorem summarySpend_postBuckets_of_eq (keeps : KeepsKey change)
    (same : ∀ b, (change b).spend = b.spend) (usage : List ProviderDailyUsage) (day : Date)
    (cls : UsageClass) (provider endpoint : String) :
    summarySpend (postBuckets day cls provider endpoint change usage) = summarySpend usage := by
  unfold postBuckets
  rw [summarySpend_updateBucket keeps, summarySpend_updateBucket keeps, same, same]
  simp

end Summaries

end RankRent.CostControls
