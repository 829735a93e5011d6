import RankRent.Api.Steps
import RankRent.Provider.PlanCosts

/-!
# What a batch costs

A batch is planned with the responses cached at that time, and each of its scans
plans anew when it starts. The state carries what the plans depend on: the cache,
the requests of every opportunity, the payloads stored on the scans, and the cost
of the plan each scan last persisted.
-/

namespace RankRent.Api
open Provider (PlanKeys PlanSettings ScanPlan)

/-- The requests of each opportunity's service and market under a profile. -/
abbrev Catalog := Nat → ScanProfile → PlanKeys

/-- `build_scan_plan`. -/
def scanPlan (settings : PlanSettings) (mode : DataMode) (profile : ScanProfile) (keys : PlanKeys)
    (cache : String → Bool) : ScanPlan :=
  if mode = .live then .live settings profile keys cache else .offline

/-- What `create_batch_plan` read when it planned a batch. -/
structure Planning where
  cache : String → Bool
  catalog : Catalog

structure CostState where
  api : State
  cache : String → Bool
  catalog : Catalog
  planned : Nat → Planning
  firstScan : Nat → Option Nat
  payloads : Nat → PlanKeys
  costs : Nat → Usd

inductive CostOp
  | api (op : Op)
  | setCache (cache : String → Bool)
  | setCatalog (catalog : Catalog)

/-- The plan a scan makes from its stored payload when it is executed. -/
def CostState.plan (settings : PlanSettings) (s : CostState) (i : Nat) (job : Job) : ScanPlan :=
  scanPlan settings job.dataMode job.scanProfile (s.payloads i) s.cache

/-- `ScanPipeline.run` up to `save_scan_plan_calls`: a blocked plan is not
persisted. -/
def CostState.execute (settings : PlanSettings) (s : CostState) (i : Nat) : Nat → Usd :=
  match s.api.jobs[i]? with
  | none => s.costs
  | some job =>
    if (s.plan settings i job).blocked then s.costs
    else Function.update s.costs i (s.plan settings i job).uncachedCost

/-- The scan whose pipeline a step starts. -/
def CostState.started (s : CostState) : Op → Option Nat
  | .worker (.start e ..) => s.api.worker.runs[e]?.map fun run => run.lease.scanId
  | _ => none

/-- The ids of the scans a batch was queued with. -/
def CostState.queuedScans (s : CostState) : Op → Nat → Option Nat
  | .queueBatch b => if (s.api.queueBatch b).isSome then
      Function.update s.firstScan b (some s.api.worker.scans.length) else s.firstScan
  | _ => s.firstScan

/-- The payloads of the scans: a new one stores the requests of its opportunity. -/
def CostState.stored (s : CostState) (jobs : List Job) (i : Nat) : PlanKeys :=
  match s.api.jobs[i]?, jobs[i]? with
  | none, some job => s.catalog job.opportunity job.scanProfile
  | _, _ => s.payloads i

def CostState.apply (settings : PlanSettings) (s : CostState) : CostOp → CostState
  | .setCache cache => { s with cache := cache }
  | .setCatalog catalog => { s with catalog := catalog }
  | .api op => { s with
      api := s.api.apply settings.toSettings op
      planned := fun b => if b < s.api.batches.length then s.planned b else ⟨s.cache, s.catalog⟩
      firstScan := s.queuedScans op
      payloads := s.stored (s.api.apply settings.toSettings op).jobs
      costs := match s.started op with
        | none => s.costs
        | some i => s.execute settings i }

def CostState.initial (n : Nat) (cache : String → Bool) (catalog : Catalog) : CostState where
  api := .initial n
  cache := cache
  catalog := catalog
  planned := fun _ => ⟨cache, catalog⟩
  firstScan := fun _ => none
  payloads := fun _ => catalog 0 .testing
  costs := fun _ => 0

/-- The steps as the program takes them: a batch is created from the plans of its
opportunities. -/
def CostCalled (settings : PlanSettings) (s : CostState) : CostOp → Prop
  | .api (.createBatch profile mode budget fits plans) =>
    Called s.api (.createBatch profile mode budget fits plans) ∧ ∀ entry ∈ plans,
      entry.2 = ⟨(scanPlan settings mode profile (s.catalog entry.1 profile) s.cache).blocked,
        (scanPlan settings mode profile (s.catalog entry.1 profile) s.cache).uncachedCost⟩
  | .api op => Called s.api op
  | _ => True

/-- The requests a plan knows in advance. -/
def knownKeys (keys : PlanKeys) : List String := keys.keywords ++ [keys.listings]

/-- The scan `i` of an item is executed for the requests it was planned for, and
what the cache answered then it still answers. -/
def CostState.Unchanged (s : CostState) (i b : Nat) (batch : Batch) (item : BatchItem) : Prop :=
  let keys := (s.planned b).catalog item.opportunity batch.scanProfile
  s.payloads i = keys ∧ ∀ key ∈ knownKeys keys, (s.planned b).cache key = true → s.cache key = true

/-- A batch scan starts only while its plan would cost no more than when it was
planned. -/
def Unexpired (s : CostState) : CostOp → Prop
  | .api op => ∀ i ∈ s.started op, ∀ (b first : Nat) (batch : Batch) (k : Nat) (item : BatchItem),
      s.firstScan b = some first → s.api.batches[b]? = some batch → batch.items[k]? = some item →
      i = first + k → s.Unchanged i b batch item
  | _ => True

/-- The uncached cost of the plans the scans of a batch last persisted. -/
def CostState.executedCost (s : CostState) (first count : Nat) : Usd :=
  ((List.range count).map fun k => s.costs (first + k)).sum

/-- Every queued batch keeps to its `approved_max_cost_usd`. -/
def CostState.WithinApproved (s : CostState) : Prop :=
  ∀ (b first : Nat) (batch : Batch) (approved : Usd), s.firstScan b = some first →
    s.api.batches[b]? = some batch → batch.approvedMaxCost = some approved →
    s.executedCost first batch.items.length ≤ approved

/-! ## Batches -/

section Batches
variable {s t : State}

/-- Everything a step does to the batches. -/
inductive BatchStep (s t : State) : Op → Prop
  | kept {op : Op} (batches : t.batches = s.batches)
      (refused : ∀ b, op = .queueBatch b → s.queueBatch b = none) : BatchStep s t op
  | created {profile : ScanProfile} {mode : DataMode} {budget total : Usd} {templateFits : Bool}
      {plans : List (Nat × PlanSummary)}
      (batches : t.batches = s.batches ++ [⟨profile, mode, .planned, budget, total, none,
        plans.map fun entry => ⟨entry.1, entry.2.uncachedCost⟩⟩]) :
      BatchStep s t (.createBatch profile mode budget templateFits plans)
  | confirmed {b : Nat} {approvedMax : Usd} {role : Review.ReviewRole} {batch : Batch}
      (found : s.batches[b]? = some batch) (awaiting : batch.status = .planned)
      (batches : t.batches = s.batches.set b
        { batch with status := .confirmed, approvedMaxCost := some approvedMax }) :
      BatchStep s t (.confirmBatch b approvedMax role)
  | queued {b : Nat} {batch : Batch} {approved : Usd} (accepted : s.queueBatch b = some t)
      (found : s.batches[b]? = some batch) (confirmed : batch.status = .confirmed)
      (maximum : batch.approvedMaxCost = some approved)
      (bounded : (batch.items.map BatchItem.estimatedCost).sum ≤ approved)
      (batches : t.batches = s.batches.set b { batch with status := .queued })
      (jobs : t.jobs = s.jobs ++ (batchRows batch).map Prod.snd) :
      BatchStep s t (.queueBatch b)

theorem batchStep_refused (s : State) {op : Op}
    (refused : ∀ b, op = .queueBatch b → s.queueBatch b = none) : BatchStep s s op :=
  .kept rfl refused

theorem batchStep_getD {op : Op} {result : Option State}
    (refused : result = none → ∀ b, op = .queueBatch b → s.queueBatch b = none)
    (step : ∀ t, result = some t → BatchStep s t op) : BatchStep s (result.getD s) op := by
  cases outcome : result with
  | none => exact batchStep_refused s (refused outcome)
  | some t => exact step t outcome

theorem apply_batches (settings : Settings) (s : State) (op : Op) :
    BatchStep s (s.apply settings op) op := by
  cases op with
  | worker op => exact .kept rfl nofun
  | scan o mode profile plan confirm =>
    refine batchStep_getD (fun _ => nofun) fun t queued => .kept ?_ nofun
    obtain ⟨scanned, -, queued, -⟩ := apiScan_some queued
    exact (queueScan_some queued).2.1
  | retry i plan =>
    refine batchStep_getD (fun _ => nofun) fun t queued => .kept ?_ nofun
    obtain ⟨scan, job, -, -, queued⟩ := apiRetryScan_some queued
    exact (queueScan_some queued).2.1
  | promote o target plan confirm evidenceFailed role =>
    refine batchStep_getD (fun _ => nofun) fun t queued => .kept ?_ nofun
    obtain ⟨source, state, -, -, -, queued⟩ := apiPromote_some queued
    exact (queueScan_some queued).2.1
  | cancel i now =>
    refine batchStep_getD (fun _ => nofun) fun t cancelled => .kept ?_ nofun
    unfold State.apiCancelScan at cancelled
    repeat' split at cancelled
    all_goals cases cancelled
    all_goals rfl
  | transition o target role current complete =>
    refine batchStep_getD (fun _ => nofun) fun t moved => .kept ?_ nofun
    obtain ⟨state, -, -, rfl⟩ := transition_some moved
    rfl
  | createBatch profile mode budget templateFits plans =>
    refine batchStep_getD (fun _ => nofun) fun t created => ?_
    obtain ⟨-, -, -, total, batches⟩ := createBatchPlan_some created
    exact .created batches
  | confirmBatch b approvedMax role =>
    refine batchStep_getD (fun _ => nofun) fun t confirmed => ?_
    obtain ⟨batch, found, awaiting, batches, -⟩ := confirmBatch_some confirmed
    exact .confirmed found awaiting batches
  | queueBatch b =>
    refine batchStep_getD (fun none other same => ?_) fun t queued => ?_
    · cases same
      exact none
    · obtain ⟨batch, approved, found, confirmed, maximum, bounded, -, batches, -, request⟩ :=
        queueBatch_some queued
      exact .queued queued found confirmed maximum bounded batches request.jobs
  | startManual o mode profile now =>
    refine batchStep_getD (fun _ => nofun) fun t started => .kept ?_ nofun
    exact (startManual_some started).2.1
  | manual k step now =>
    refine .kept ?_ nofun
    simp only [State.apply, State.manual]
    repeat' split
    all_goals rfl

end Batches

/-! ## Costs -/

section Costs
variable {settings : PlanSettings} {s : CostState}

/-- A cache that still answers what it answered leaves a plan no dearer. -/
theorem scanPlan_cost_le {mode : DataMode} {profile : ScanProfile} {keys : PlanKeys}
    {before now : String → Bool} (unblocked : (scanPlan settings mode profile keys now).blocked = false)
    (kept : ∀ key ∈ knownKeys keys, before key = true → now key = true) :
    (scanPlan settings mode profile keys now).uncachedCost ≤
      (scanPlan settings mode profile keys before).uncachedCost := by
  unfold scanPlan at unblocked ⊢
  split
  · rename_i live
    rw [if_pos live] at unblocked
    have open_ := ScanPlan.live_open unblocked
    rw [ScanPlan.live_cost open_, ScanPlan.live_cost open_]
    refine Provider.uncachedCost_anti (fun draft => Provider.drafts_cost_nonneg) ?_
    intro draft member hit
    simp only [Provider.CallDraft.cacheHit, Bool.and_eq_true] at hit ⊢
    refine ⟨hit.1, kept draft.key ?_ hit.2⟩
    simpa [knownKeys] using Provider.drafts_known_key member hit.1
  · exact le_refl _

theorem scanPlan_cost_nonneg (mode : DataMode) (profile : ScanProfile) (keys : PlanKeys)
    (cache : String → Bool) : 0 ≤ (scanPlan settings mode profile keys cache).uncachedCost := by
  unfold scanPlan
  split
  · unfold ScanPlan.live
    split
    · exact le_refl _
    · exact Provider.uncachedCost_nonneg fun draft => Provider.drafts_cost_nonneg
  · exact le_refl _

/-- A step leaves the cost of a scan, or executes the scan with an unblocked plan. -/
theorem costs_apply (settings : PlanSettings) (s : CostState) (op : Op) (i : Nat) :
    (s.apply settings (.api op)).costs i = s.costs i ∨
      s.started op = some i ∧ ∃ job, s.api.jobs[i]? = some job ∧
        (s.plan settings i job).blocked = false ∧
        (s.apply settings (.api op)).costs i = (s.plan settings i job).uncachedCost := by
  simp only [CostState.apply]
  cases begun : s.started op with
  | none => exact Or.inl rfl
  | some j =>
    simp only [CostState.execute]
    cases found : s.api.jobs[j]? with
    | none => exact Or.inl rfl
    | some job =>
      simp only
      by_cases blocked : (s.plan settings j job).blocked = true
      · rw [if_pos blocked]
        exact Or.inl rfl
      · rw [if_neg blocked]
        by_cases same : i = j
        · subst same
          exact Or.inr ⟨rfl, job, found, by simpa using blocked, Function.update_self ..⟩
        · exact Or.inl (Function.update_of_ne same ..)

/-- The scans of a queued batch, and what their plans cost. -/
structure Queued (s : CostState) (first : Nat) (batch : Batch) : Prop where
  status : batch.status = .queued
  approved : ∃ approved, batch.approvedMaxCost = some approved ∧
    (batch.items.map BatchItem.estimatedCost).sum ≤ approved
  items : ∀ (k : Nat) (item : BatchItem), batch.items[k]? = some item →
    s.api.jobs[first + k]? = some ⟨item.opportunity, batch.dataMode, batch.scanProfile, none⟩ ∧
      s.costs (first + k) ≤ item.estimatedCost

/-- What every step keeps while no planned response expires. -/
structure Bounded (settings : PlanSettings) (s : CostState) : Prop where
  linked : Linked s.api
  idle : ∀ i, s.api.jobs.length ≤ i → s.costs i = 0
  estimated : ∀ (b : Nat) (batch : Batch), s.api.batches[b]? = some batch → ∀ item ∈ batch.items,
    item.estimatedCost = (scanPlan settings batch.dataMode batch.scanProfile
      ((s.planned b).catalog item.opportunity batch.scanProfile) (s.planned b).cache).uncachedCost
  known : ∀ b first, s.firstScan b = some first → b < s.api.batches.length
  queued : ∀ (b first : Nat) (batch : Batch), s.firstScan b = some first →
    s.api.batches[b]? = some batch → Queued s first batch

theorem planned_kept {b : Nat} {op : Op} {batch : Batch} (found : s.api.batches[b]? = some batch) :
    (s.apply settings (.api op)).planned b = s.planned b :=
  if_pos (List.getElem?_eq_some_iff.mp found).1

theorem Bounded.estimated_apply (bounded : Bounded settings s) {op : Op}
    (called : CostCalled settings s (.api op)) (b : Nat) (batch : Batch)
    (found : (s.apply settings (.api op)).api.batches[b]? = some batch) (item : BatchItem)
    (member : item ∈ batch.items) :
    item.estimatedCost = (scanPlan settings batch.dataMode batch.scanProfile
      (((s.apply settings (.api op)).planned b).catalog item.opportunity batch.scanProfile)
      ((s.apply settings (.api op)).planned b).cache).uncachedCost := by
  have old {c : Batch} (there : s.api.batches[b]? = some c) (items : c.items = batch.items)
      (mode : c.dataMode = batch.dataMode) (profile : c.scanProfile = batch.scanProfile) :
      item.estimatedCost = (scanPlan settings batch.dataMode batch.scanProfile
        (((s.apply settings (.api op)).planned b).catalog item.opportunity batch.scanProfile)
        ((s.apply settings (.api op)).planned b).cache).uncachedCost := by
    rw [planned_kept there, ← mode, ← profile]
    exact bounded.estimated b c there item (items ▸ member)
  have step : BatchStep s.api (s.apply settings (.api op)).api op :=
    apply_batches settings.toSettings s.api op
  cases step with
  | kept batches =>
    rw [batches] at found
    exact old found rfl rfl rfl
  | @created profile mode budget total templateFits plans batches =>
    rw [batches] at found
    by_cases earlier : b < s.api.batches.length
    · rw [List.getElem?_append_left earlier] at found
      exact old found rfl rfl rfl
    · have new : (s.apply settings (.api (.createBatch profile mode budget templateFits plans))).planned
          b = ⟨s.cache, s.catalog⟩ := if_neg earlier
      rw [List.getElem?_append_right (Nat.le_of_not_lt earlier)] at found
      obtain rfl := List.mem_singleton.mp (List.mem_of_getElem? found)
      obtain ⟨entry, planned, rfl⟩ := List.mem_map.mp member
      rw [new, called.2 entry planned]
  | confirmed there awaiting batches =>
    rw [batches] at found
    rcases Table.getElem?_set_cases found with ⟨rfl, rfl⟩ | ⟨-, stays⟩
    · exact old there rfl rfl rfl
    · exact old stays rfl rfl rfl
  | queued accepted there confirmed maximum within batches jobs =>
    rw [batches] at found
    rcases Table.getElem?_set_cases found with ⟨rfl, rfl⟩ | ⟨-, stays⟩
    · exact old there rfl rfl rfl
    · exact old stays rfl rfl rfl

/-- The cost of a scan of a queued batch stays within its estimate. -/
theorem Bounded.cost_apply (bounded : Bounded settings s) {op : Op}
    (unexpired : Unexpired s (.api op)) {b first k : Nat} {batch : Batch} {item : BatchItem}
    (starts : s.firstScan b = some first) (found : s.api.batches[b]? = some batch)
    (there : batch.items[k]? = some item) :
    (s.apply settings (.api op)).costs (first + k) ≤ item.estimatedCost := by
  obtain ⟨owned, within⟩ := (bounded.queued b first batch starts found).items k item there
  rcases costs_apply settings s op (first + k) with same | ⟨begun, job, mine, unblocked, cost⟩
  · rw [same]
    exact within
  · obtain rfl : job = _ := Option.some.inj (mine.symm.trans owned)
    obtain ⟨payload, cached⟩ :=
      unexpired (first + k) begun b first batch k item starts found there rfl
    rw [cost, bounded.estimated b batch found item (List.mem_of_getElem? there)]
    simp only [CostState.plan] at unblocked ⊢
    rw [payload] at unblocked ⊢
    exact scanPlan_cost_le unblocked cached

theorem queuedScans_refused {op : Op} (refused : ∀ b, op = .queueBatch b → s.api.queueBatch b = none) :
    s.queuedScans op = s.firstScan := by
  cases op with
  | queueBatch b =>
    simp only [CostState.queuedScans, refused b rfl, Option.isSome_none, Bool.false_eq_true,
      ↓reduceIte]
  | _ => rfl

/-- The scans a batch is queued with have no plan yet. -/
theorem Bounded.queue (bounded : Bounded settings s) {b : Nat} {batch : Batch} {approved : Usd}
    (found : s.api.batches[b]? = some batch) (maximum : batch.approvedMaxCost = some approved)
    (within : (batch.items.map BatchItem.estimatedCost).sum ≤ approved)
    (jobs : (s.apply settings (.api (.queueBatch b))).api.jobs =
      s.api.jobs ++ (batchRows batch).map Prod.snd) :
    Queued (s.apply settings (.api (.queueBatch b))) s.api.worker.scans.length
      { batch with status := .queued } where
  status := rfl
  approved := ⟨approved, maximum, within⟩
  items := by
    intro k item there
    rw [← bounded.linked.length]
    constructor
    · rw [jobs, List.getElem?_append_right (Nat.le_add_right ..), Nat.add_sub_cancel_left]
      simp only at there
      simp [batchRows, there]
    · have new : (s.apply settings (.api (.queueBatch b))).costs (s.api.jobs.length + k) = 0 :=
        bounded.idle _ (Nat.le_add_right ..)
      rw [new, bounded.estimated b batch found item (List.mem_of_getElem? there)]
      exact scanPlan_cost_nonneg ..

theorem Bounded.queued_apply (bounded : Bounded settings s) {op : Op}
    (called : Called s.api op) (unexpired : Unexpired s (.api op)) (b first : Nat) (batch : Batch)
    (starts : (s.apply settings (.api op)).firstScan b = some first)
    (found : (s.apply settings (.api op)).api.batches[b]? = some batch) :
    Queued (s.apply settings (.api op)) first batch := by
  have jobs {i : Nat} {job : Job} (owned : s.api.jobs[i]? = some job) :
      (s.apply settings (.api op)).api.jobs[i]? = some job :=
    (apply_step settings.toSettings bounded.linked called).1.job_kept owned
  have old {c : Batch} (starts : s.firstScan b = some first) (there : s.api.batches[b]? = some c)
      (same : c = batch) : Queued (s.apply settings (.api op)) first batch := by
    subst same
    obtain ⟨status, approved, items⟩ := bounded.queued b first c starts there
    refine ⟨status, approved, fun k item member => ?_⟩
    exact ⟨jobs (items k item member).1, bounded.cost_apply unexpired starts there member⟩
  have step : BatchStep s.api (s.apply settings (.api op)).api op :=
    apply_batches settings.toSettings s.api op
  cases step with
  | kept batches refused =>
    rw [batches] at found
    exact old (queuedScans_refused refused ▸ starts) found rfl
  | created batches =>
    rw [batches, List.getElem?_append_left (bounded.known b first starts)] at found
    exact old starts found rfl
  | confirmed there awaiting batches =>
    rw [batches] at found
    rcases Table.getElem?_set_cases found with ⟨rfl, -⟩ | ⟨-, stays⟩
    · have finished := (bounded.queued _ first _ starts there).status
      rw [awaiting] at finished
      cases finished
    · exact old starts stays rfl
  | @queued c earlier approved accepted there confirmed maximum within batches grown =>
    have update : s.queuedScans (.queueBatch c) =
        Function.update s.firstScan c (some s.api.worker.scans.length) := by
      simp only [CostState.queuedScans, accepted, Option.isSome_some, ↓reduceIte]
    have begins : Function.update s.firstScan c (some s.api.worker.scans.length) b = some first :=
      update ▸ starts
    rw [batches] at found
    rcases Table.getElem?_set_cases found with ⟨rfl, rfl⟩ | ⟨other, stays⟩
    · rw [Function.update_self] at begins
      obtain rfl := Option.some.inj begins
      exact bounded.queue there maximum within grown
    · rw [Function.update_of_ne (Ne.symm other)] at begins
      exact old begins stays rfl

theorem CostCalled.called {op : Op} (called : CostCalled settings s (.api op)) : Called s.api op := by
  cases op with
  | createBatch profile mode budget fits plans => exact called.1
  | _ => exact called

theorem Bounded.known_apply (bounded : Bounded settings s) {op : Op} (b first : Nat)
    (starts : (s.apply settings (.api op)).firstScan b = some first) :
    b < (s.apply settings (.api op)).api.batches.length := by
  have step : BatchStep s.api (s.apply settings (.api op)).api op :=
    apply_batches settings.toSettings s.api op
  cases step with
  | kept batches refused =>
    rw [batches]
    exact bounded.known b first (queuedScans_refused refused ▸ starts)
  | created batches =>
    have earlier := bounded.known b first starts
    rw [batches, List.length_append]
    omega
  | confirmed there awaiting batches =>
    rw [batches, List.length_set]
    exact bounded.known b first starts
  | @queued c earlier approved accepted there confirmed maximum within batches grown =>
    rw [batches, List.length_set]
    by_cases same : b = c
    · subst same
      exact (List.getElem?_eq_some_iff.mp there).1
    · refine bounded.known b first ?_
      have update : s.queuedScans (.queueBatch c) b = some first := starts
      simp only [CostState.queuedScans, accepted, Option.isSome_some, ↓reduceIte] at update
      rwa [Function.update_of_ne same] at update

theorem Bounded.apply (bounded : Bounded settings s) {op : CostOp}
    (called : CostCalled settings s op) (unexpired : Unexpired s op) :
    Bounded settings (s.apply settings op) := by
  cases op with
  | setCache cache =>
    refine ⟨bounded.linked, bounded.idle, bounded.estimated, bounded.known, ?_⟩
    intro b first batch starts found
    obtain ⟨status, approved, items⟩ := bounded.queued b first batch starts found
    exact ⟨status, approved, items⟩
  | setCatalog catalog =>
    refine ⟨bounded.linked, bounded.idle, bounded.estimated, bounded.known, ?_⟩
    intro b first batch starts found
    obtain ⟨status, approved, items⟩ := bounded.queued b first batch starts found
    exact ⟨status, approved, items⟩
  | api op =>
    obtain ⟨step, linked⟩ := apply_step settings.toSettings bounded.linked called.called
    refine ⟨linked, fun i new => ?_, bounded.estimated_apply called, bounded.known_apply,
      bounded.queued_apply called.called unexpired⟩
    have missing : s.api.jobs[i]? = none := by
      by_contra owned
      obtain ⟨job, owned⟩ := Option.ne_none_iff_exists'.mp owned
      have later := (List.getElem?_eq_some_iff.mp (step.job_kept owned)).1
      exact absurd new (Nat.not_le.mpr later)
    rcases costs_apply settings s op i with same | ⟨-, job, owned, -⟩
    · rw [same]
      exact bounded.idle i (List.getElem?_eq_none_iff.mp missing)
    · rw [missing] at owned
      cases owned

theorem bounded_initial (settings : PlanSettings) (n : Nat) (cache : String → Bool)
    (catalog : Catalog) : Bounded settings (.initial n cache catalog) where
  linked := linked_initial n
  idle := fun _ _ => rfl
  estimated := by simp [CostState.initial, State.initial]
  known := by simp [CostState.initial]
  queued := by simp [CostState.initial]

/-- Estimates that bound the costs of the scans one by one bound their sum. -/
theorem Queued.executedCost_le {first : Nat} {batch : Batch} (queued : Queued s first batch) :
    s.executedCost first batch.items.length ≤ (batch.items.map BatchItem.estimatedCost).sum := by
  refine List.Forall₂.sum_le_sum (List.forall₂_iff_get.mpr ⟨by simp, fun k before after => ?_⟩)
  simp only [List.length_map] at after
  simpa using (queued.items k _ (List.getElem?_eq_getElem after)).2

theorem Bounded.withinApproved (bounded : Bounded settings s) : s.WithinApproved := by
  intro b first batch approved starts found maximum
  have queued := bounded.queued b first batch starts found
  obtain ⟨other, same, within⟩ := queued.approved
  obtain rfl : other = approved := Option.some.inj (same.symm.trans maximum)
  exact queued.executedCost_le.trans within

end Costs

/-- One step of the batches and the scans, as a relation. -/
def costTakes (settings : PlanSettings) (s : CostState) (op : CostOp) (t : CostState) : Prop :=
  t = s.apply settings op

/-- **Batch cost bound.** While no response a batch was planned with expires
before its scans start, the plans they persist stay within the approved cost. -/
theorem batch_costs_within_approved {settings : PlanSettings} {n : Nat} {cache : String → Bool}
    {catalog : Catalog} {s : CostState}
    (run : Runs.Reaches (fun s op => CostCalled settings s op ∧ Unexpired s op)
      (costTakes settings) (.initial n cache catalog) s) : s.WithinApproved := by
  refine (run.invariant (I := Bounded settings) ?_
    (bounded_initial settings n cache catalog)).withinApproved
  rintro s op t bounded ⟨called, unexpired⟩ rfl
  exact bounded.apply called unexpired

/-- The same requests for every opportunity. -/
def flatCatalog : Catalog := fun _ _ => ⟨["k1"], "m", fun _ => "s", fun _ => "b", "l1"⟩

/-- A testing batch of one opportunity, planned while its keyword and listings
responses are cached, and approved for the rest. -/
def cachedBatch : List CostOp :=
  [.api (.createBatch .testing .live (14 / 1000) true [(0, ⟨false, 14 / 1000⟩)]),
    .api (.confirmBatch 0 (14 / 1000) .reviewer), .api (.queueBatch 0)]

/-- A worker claims the scan and its pipeline starts. -/
def executed : List CostOp :=
  [.api (.worker (.claim 0 "w" "t" 0 60)), .api (.worker (.load 0 0)),
    .api (.worker (.start 0 .testing true .batchReviewAsync 1))]

def CostState.runs (s : CostState) (ops : List CostOp) : CostState :=
  ops.foldl (CostState.apply .production) s

def cachedStart : CostState := .initial 1 (fun _ => true) flatCatalog

/-- Everything is cached, and every opportunity has the same requests. -/
structure Flat (s : CostState) : Prop where
  cache : s.cache = fun _ => true
  catalog : s.catalog = flatCatalog
  planned : ∀ b, (s.planned b).catalog = flatCatalog
  payloads : ∀ i, s.payloads i = flatCatalog 0 .testing

def CostOp.isApi : CostOp → Bool
  | .api _ => true
  | _ => false

/-- Requests and workers leave it so, and nothing expires. -/
theorem Flat.step {s : CostState} {op : CostOp} (flat : Flat s)
    (called : CostCalled .production s op ∧ op.isApi = true) :
    (CostCalled .production s op ∧ Unexpired s op) ∧ Flat (s.apply .production op) := by
  obtain ⟨called, requested⟩ := called
  cases op with
  | setCache cache => cases requested
  | setCatalog catalog => cases requested
  | api op =>
    refine ⟨⟨called, fun i _ b first batch k item _ _ _ _ => ⟨?_, ?_⟩⟩, flat.cache, flat.catalog, ?_, ?_⟩
    · rw [flat.planned, flat.payloads]
      rfl
    · intro key _ _
      rw [flat.cache]
    · intro b
      simp only [CostState.apply]
      split
      · exact flat.planned b
      · exact flat.catalog
    · intro i
      simp only [CostState.apply, CostState.stored]
      split
      · rw [flat.catalog]
        rfl
      · exact flat.payloads i

/-- The scan starts while the responses are cached. -/
theorem cached_batch_within_approved :
    (cachedStart.runs (cachedBatch ++ executed)).executedCost 0 1 = 14 / 1000 ∧
      (cachedStart.runs (cachedBatch ++ executed)).WithinApproved := by
  refine ⟨by decide +kernel, batch_costs_within_approved (Runs.Allowed.reaches ?_)⟩
  have called : Runs.Allowed (fun s op => CostCalled .production s op ∧ op.isApi = true)
      (CostState.apply .production) cachedStart (cachedBatch ++ executed) := by
    simp only [cachedBatch, executed, List.cons_append, List.nil_append, Runs.Allowed, CostCalled,
      Called]
    decide +kernel
  exact called.imp (I := Flat) (fun s op flat => flat.step)
    ⟨rfl, rfl, fun _ => rfl, fun _ => rfl⟩

/-- The cached responses expire before the worker starts the scan, and its plan
costs more than was approved. -/
theorem expired_batch_over_approved :
    Runs.Reaches (CostCalled .production) (costTakes .production) cachedStart
        (cachedStart.runs (cachedBatch ++ .setCache (fun _ => false) :: executed)) ∧
      ¬ (cachedStart.runs (cachedBatch ++ .setCache (fun _ => false) :: executed)).WithinApproved := by
  constructor
  · refine Runs.Allowed.reaches ?_
    simp only [cachedBatch, executed, List.cons_append, List.nil_append, Runs.Allowed, CostCalled,
      Called]
    decide +kernel
  · intro within
    have exceeded := within 0 0 ⟨.testing, .live, .queued, 14 / 1000, 14 / 1000, some (14 / 1000),
      [⟨0, 14 / 1000⟩]⟩ (14 / 1000) (by decide +kernel) (by decide +kernel) rfl
    revert exceeded
    decide +kernel

end RankRent.Api
