import RankRent.Library.Runs
import RankRent.Provider.PlanCosts
import RankRent.Provider.Retries

/-!
# What a scan spends

One scan over all of its attempts. Every attempt plans anew, and `build_scan_plan`
compares the limit with the requests it takes for uncached at that time; what was
sent before is not part of it.
-/

namespace RankRent.Provider

/-- How a request that no cached response answers ends. -/
inductive Fate
  | completed | failed | unknown | failedBeforeNetwork | blocked
  deriving DecidableEq

/-- The request was submitted to the network. -/
def Fate.sent : Fate → Bool
  | .completed | .failed | .unknown => true
  | .failedBeforeNetwork | .blocked => false

/-- The row of a request that has ended. -/
def Exchange.closed (x : Exchange) (r : Request) (row : ApiCall) : Fate → ApiCall
  | .completed => x.answered r row .sent
  | .failed => x.answered r row (.failed false)
  | .failedBeforeNetwork => x.answered r row (.failed true)
  | .unknown =>
    (((row.reserve x.day x.cls row.estimatedCost).submit x.now).finish
      ⟨.providerOutcomeUnknown, none, none, none, some x.error, x.now⟩).settle true x.now
  | .blocked => row.finish ⟨.blocked, none, none, none, some x.error, x.now⟩

/-- A scan, with its own rows of `api_calls`. -/
structure Spending where
  calls : List ApiCall
  cache : String → Bool
  /-- The cache when the scan was first planned. -/
  planned : Option (String → Bool)
  /-- An attempt is running: its plan was not blocked. -/
  running : Bool
  spent : Usd

inductive SpendOp
  | setCache (cache : String → Bool)
  | begin
  | request (r : Request) (fate : Fate) (x : Exchange)
  | reclassify (i : Nat) (status : CallStatus)

section Model
variable (settings : PlanSettings) (scan : Nat) (provider : String) (profile : ScanProfile)
  (keys : PlanKeys)

/-- The stored plan, the same in every attempt. -/
def scanCalls : List ScanPlanCall := buildScanPlan scan provider profile settings.free keys

/-- The start of an attempt. -/
def Spending.begin (s : Spending) : Spending :=
  if (ScanPlan.live settings profile keys s.cache).blocked then { s with running := false }
  else { s with running := true, planned := s.planned.or (some s.cache) }

/-- `_request`. -/
def Spending.request (s : Spending) (r : Request) (fate : Fate) (x : Exchange) : Spending :=
  let site := r.site scan provider
  match selectCall (scanCalls settings scan provider profile keys) s.calls site (s.cache r.key) with
  | none => s
  | some selection =>
    match commitCall s.calls site (x.preparation r (if s.cache r.key then .hit else .sent))
      selection with
    | none => s
    | some (calls, i, row) =>
      if s.cache r.key then { s with calls := calls }
      else { s with
        calls := calls.set i (x.closed r row fate)
        spent := if fate.sent then s.spent + row.estimatedCost else s.spent }

/-- Recovery, a late end of the request or a billing decision on a request that
was sent. -/
def Spending.reclassify (s : Spending) (i : Nat) (status : CallStatus) : Spending :=
  match s.calls[i]? with
  | none => s
  | some row =>
    if row.networkStartedAt.isSome then { s with calls := s.calls.set i { row with status := status } }
    else s

def Spending.apply (s : Spending) : SpendOp → Spending
  | .setCache cache => { s with cache := cache }
  | .begin => s.begin settings profile keys
  | .request r fate x =>
    if s.running then s.request settings scan provider profile keys r fate x else s
  | .reclassify i status => s.reclassify i status

/-- The row a request would get was not sent. -/
def Selection.unsent : Option Selection → Bool
  | some (.retry _ row) => row.networkStartedAt = none
  | _ => true

/-- No request is issued again after it was sent and failed, and the cache
answers the known requests it answered when the scan was first planned. -/
def Affordable (s : Spending) : SpendOp → Prop
  | .request r _ _ => s.running = true → s.cache r.key = false →
      Selection.unsent (selectCall (scanCalls settings scan provider profile keys) s.calls
          (r.site scan provider) false) = true ∧
        (knownEndpoint r.endpoint = true → (s.planned.any fun cache => cache r.key) = false)
  | _ => True

instance decidableAffordable (s : Spending) :
    ∀ op, Decidable (Affordable settings scan provider profile keys s op)
  | .request r _ _ => inferInstanceAs (Decidable (s.running = true → s.cache r.key = false →
      Selection.unsent (selectCall (scanCalls settings scan provider profile keys) s.calls
          (r.site scan provider) false) = true ∧
        (knownEndpoint r.endpoint = true → (s.planned.any fun cache => cache r.key) = false)))
  | .setCache _ | .begin | .reclassify _ _ => inferInstanceAs (Decidable True)

/-- A scan that was queued has no rows. -/
def Spending.queued (cache : String → Bool) : Spending := ⟨[], cache, none, false, 0⟩

end Model

/-! ## Rows -/

/-- The requests that were sent, each on the row of its own planned request. -/
structure Bought (plan : List ScanPlanCall) (scan : Nat) (calls : List ApiCall)
    (sent : List ScanPlanCall) : Prop where
  rows : ∀ row ∈ calls, row.scanRunId = some scan ∧ ∃ call ∈ plan,
    row.plannedRequestId = some call.plannedRequestId ∧ row.estimatedCost = call.estimatedCost
  unique : (calls.map ApiCall.plannedRequestId).Nodup
  planned : ∀ call ∈ sent, call ∈ plan
  distinct : sent.Nodup
  closed : ∀ call ∈ sent, ∃ row ∈ calls, row.plannedRequestId = some call.plannedRequestId ∧
    (row.status.retryable = false ∨ row.networkStartedAt ≠ none)

/-- The row of a planned request. -/
structure RowFor (scan : Nat) (call : ScanPlanCall) (row : ApiCall) : Prop where
  run : row.scanRunId = some scan
  id : row.plannedRequestId = some call.plannedRequestId
  cost : row.estimatedCost = call.estimatedCost

section Rows
variable {plan : List ScanPlanCall} {scan : Nat} {provider : String} {calls left : List ApiCall}
  {sent : List ScanPlanCall} {call : ScanPlanCall} {new : ApiCall}

theorem Bought.mem (bought : Bought plan scan calls sent) (placed : Placed scan calls call new left)
    {row : ApiCall} : row ∈ left ↔ row = new ∨
      row ∈ calls ∧ row.plannedRequestId ≠ some call.plannedRequestId :=
  placed.mem (fun row member => (bought.rows row member).1) bought.unique

theorem Bought.unique_place (bought : Bought plan scan calls sent)
    (placed : Placed scan calls call new left) (new_row : RowFor scan call new) :
    (left.map ApiCall.plannedRequestId).Nodup :=
  placed.unique (fun row member => (bought.rows row member).1) bought.unique new_row.id

/-- A new row of a request, which stays closed if it was sent before. -/
theorem Bought.place (planned : Planned plan scan provider) (bought : Bought plan scan calls sent)
    (placed : Placed scan calls call new left) (member : call ∈ plan)
    (new_row : RowFor scan call new)
    (kept : call ∈ sent → new.status.retryable = false ∨ new.networkStartedAt ≠ none) :
    Bought plan scan left sent where
  rows := by
    intro row there
    rcases (bought.mem placed).mp there with rfl | ⟨earlier, -⟩
    · exact ⟨new_row.run, call, member, new_row.id, new_row.cost⟩
    · exact bought.rows row earlier
  unique := bought.unique_place placed new_row
  planned := bought.planned
  distinct := bought.distinct
  closed := by
    intro other inSent
    by_cases same : other = call
    · subst same
      exact ⟨new, (bought.mem placed).mpr (Or.inl rfl), new_row.id, kept inSent⟩
    · obtain ⟨row, there, id, state⟩ := bought.closed other inSent
      refine ⟨row, (bought.mem placed).mpr (Or.inr ⟨there, fun equal => same ?_⟩), id, state⟩
      exact planned_eq planned (bought.planned other inSent) member
        (Option.some.inj (id.symm.trans equal))

/-- A request that was not sent before is sent. -/
theorem Bought.buy (planned : Planned plan scan provider) (bought : Bought plan scan calls sent)
    (placed : Placed scan calls call new left) (member : call ∈ plan)
    (new_row : RowFor scan call new) (first : call ∉ sent) (started : new.networkStartedAt ≠ none) :
    Bought plan scan left (sent ++ [call]) := by
  have held := bought.place planned placed member new_row fun again => absurd again first
  refine ⟨held.rows, held.unique, fun other inSent => ?_, ?_, fun other inSent => ?_⟩
  · rcases List.mem_append.mp inSent with earlier | last
    · exact bought.planned other earlier
    · rwa [List.mem_singleton.mp last]
  · refine List.nodup_append.mpr ⟨bought.distinct, List.nodup_singleton _, ?_⟩
    intro other earlier last single equal
    rw [equal, List.mem_singleton.mp single] at earlier
    exact first earlier
  · rcases List.mem_append.mp inSent with earlier | last
    · exact held.closed other earlier
    · rw [List.mem_singleton.mp last]
      exact ⟨new, (bought.mem placed).mpr (Or.inl rfl), new_row.id, Or.inr started⟩

/-- A request whose row is new, or failed before the network, was not sent. -/
theorem Bought.unsent {r : Request} {p : Preparation} {hit : Bool} {i : Nat} {row : ApiCall}
    (bought : Bought plan scan calls sent)
    (prepared : Prepared plan calls (r.site scan provider) call p hit i row left)
    (idle : Selection.unsent (selectCall plan calls (r.site scan provider) hit) = true) :
    call ∉ sent := by
  intro inSent
  obtain ⟨earlier, there, id, state⟩ := bought.closed call inSent
  rcases prepared.place with ⟨free, -⟩ | ⟨old, found, stands, failed, -, -, selected⟩
  · have stands := standsFor_iff.mpr ⟨(bought.rows earlier there).1, id⟩
    exact Bool.false_ne_true ((free earlier there).symm.trans stands)
  · have same : old = earlier := by
      refine List.inj_on_of_nodup_map bought.unique (List.mem_of_getElem? found) there ?_
      rw [(standsFor_iff.mp stands).2, id]
    subst same
    rcases state with closed | started
    · rw [closed] at failed
      cases failed
    · rw [selected] at idle
      exact started (of_decide_eq_true idle)

end Rows

/-! ## Requests -/

section Request
variable {settings : PlanSettings} {scan : Nat} {provider : String} {profile : ScanProfile}
  {keys : PlanKeys} {s : Spending} {r : Request} {x : Exchange}

/-- The columns of a row that its end keeps, and when it was sent. -/
theorem closed_row (x : Exchange) (r : Request) (row : ApiCall) (fate : Fate) :
    (x.closed r row fate).scanRunId = row.scanRunId ∧
      (x.closed r row fate).plannedRequestId = row.plannedRequestId ∧
      (x.closed r row fate).estimatedCost = row.estimatedCost ∧
      (fate.sent = true → (x.closed r row fate).networkStartedAt ≠ none) := by
  have finished (row : ApiCall) (record : CallRecord) :
      (row.finish record).scanRunId = row.scanRunId ∧
        (row.finish record).plannedRequestId = row.plannedRequestId ∧
        (row.finish record).estimatedCost = row.estimatedCost ∧
        (row.finish record).networkStartedAt = row.networkStartedAt := by
    unfold ApiCall.finish
    split <;> exact ⟨rfl, rfl, rfl, rfl⟩
  cases fate with
  | blocked =>
    obtain ⟨run, id, cost, -⟩ := finished row ⟨.blocked, none, none, none, some x.error, x.now⟩
    exact ⟨run, id, cost, nofun⟩
  | failedBeforeNetwork =>
    obtain ⟨run, id, cost, -⟩ := finished (row.reserve x.day x.cls row.estimatedCost)
      ⟨.failedBeforeNetwork, none, none, none, some x.error, x.now⟩
    exact ⟨run, id, cost, nofun⟩
  | completed =>
    obtain ⟨run, id, cost, started⟩ := finished ((row.reserve x.day x.cls row.estimatedCost).submit
      x.now) ⟨.completed, some x.payload, some x.responseId, some r.key, none, x.now⟩
    refine ⟨run, id, cost, fun _ none => ?_⟩
    have := started.symm.trans none
    cases this
  | failed =>
    obtain ⟨run, id, cost, started⟩ := finished ((row.reserve x.day x.cls row.estimatedCost).submit
      x.now) ⟨.failed, none, none, none, some x.error, x.now⟩
    refine ⟨run, id, cost, fun _ none => ?_⟩
    have := started.symm.trans none
    cases this
  | unknown =>
    obtain ⟨run, id, cost, started⟩ := finished ((row.reserve x.day x.cls row.estimatedCost).submit
      x.now) ⟨.providerOutcomeUnknown, none, none, none, some x.error, x.now⟩
    refine ⟨run, id, cost, fun _ none => ?_⟩
    have := started.symm.trans none
    cases this

/-- A known planned request is chosen by its key. -/
theorem plannedCall_key {plan : List ScanPlanCall} {calls : List ApiCall} {site : CallSite}
    {call : ScanPlanCall} (chosen : plannedCall plan calls site = some call)
    (known : call.requestKnown = true) : call.cacheKey = site.key := by
  unfold plannedCall at chosen
  simp only at chosen
  split at chosen
  · rename_i found
    cases chosen
    have exact_ := List.find?_some found
    simp only [Bool.and_eq_true, decide_eq_true_eq] at exact_
    exact exact_.2
  · split at chosen
    · cases chosen
    · have unknown := List.find?_some chosen
      rw [known] at unknown
      cases unknown

theorem request_unplanned
    (chosen : plannedCall (scanCalls settings scan provider profile keys) s.calls
      (r.site scan provider) = none) (fate : Fate) :
    s.request settings scan provider profile keys r fate x = s := by
  unfold Spending.request selectCall
  simp only [chosen]
  cases hit : s.cache r.key with
  | false => rfl
  | true =>
    simp only [↓reduceIte]
    cases found : firstRow s.calls fun row => answers row (r.site scan provider) with
    | none => rfl
    | some entry =>
      obtain ⟨row, i⟩ := entry
      obtain ⟨there, -⟩ := firstRow_some found
      simp [commitCall, there]

/-- What the plan may cost: every request it takes for uncached, once. -/
structure Within (settings : PlanSettings) (scan : Nat) (provider : String) (profile : ScanProfile)
    (keys : PlanKeys) (s : Spending) : Prop where
  budget : ∀ cache ∈ s.planned,
    uncachedCost cache (drafts profile settings.free keys) ≤ settings.maxScanCost
  opened : s.running = true → s.planned.isSome = true
  bought : ∃ sent, Bought (scanCalls settings scan provider profile keys) scan s.calls sent ∧
    s.spent = (sent.map ScanPlanCall.estimatedCost).sum ∧
    ∀ call ∈ sent, ∃ cache ∈ s.planned, call.requestKnown = true → cache call.cacheKey = false

/-- The row that is prepared for a planned request has its cost. -/
theorem Bought.rowFor {plan : List ScanPlanCall} {calls left : List ApiCall}
    {sent : List ScanPlanCall} {call : ScanPlanCall} {p : Preparation} {hit : Bool} {i : Nat}
    {row : ApiCall} (planned : Planned plan scan provider) (bought : Bought plan scan calls sent)
    (member : call ∈ plan)
    (prepared : Prepared plan calls (r.site scan provider) call p hit i row left) :
    RowFor scan call row := by
  refine ⟨prepared.run, prepared.id, ?_⟩
  rcases prepared.place with ⟨-, -, rfl, -⟩ | ⟨old, there, stands, -, rfl, -, -⟩
  · rfl
  · obtain ⟨-, other, inPlan, id, cost⟩ := bought.rows old (List.mem_of_getElem? there)
    have same := (standsFor_iff.mp stands).2
    rw [← planned_eq planned inPlan member (Option.some.inj (id.symm.trans same))]
    exact cost

theorem Within.request (within : Within settings scan provider profile keys s)
    (running : s.running = true) (fate : Fate)
    (affordable : Affordable settings scan provider profile keys s (.request r fate x)) :
    Within settings scan provider profile keys (s.request settings scan provider profile keys r fate x) := by
  have planned : Planned (scanCalls settings scan provider profile keys) scan provider :=
    buildScanPlan_planned profile settings.free keys
  obtain ⟨sent, bought, spent, uncached⟩ := within.bought
  cases chosen : plannedCall (scanCalls settings scan provider profile keys) s.calls
      (r.site scan provider) with
  | none =>
    rw [request_unplanned chosen fate]
    exact within
  | some call =>
    obtain ⟨slot, -⟩ := plannedCall_some chosen
    have member := ((mem_slots planned).mp slot).1
    have endpoint : call.endpoint = r.endpoint := ((mem_slots planned).mp slot).2
    cases hit : s.cache r.key with
    | true =>
      obtain ⟨selection, i, row, left, selected, committed, prepared⟩ :=
        prepared_of_chosen chosen (x.preparation r .hit) true
      have same : left.set i row = left := by
        rcases prepared.place with ⟨-, rfl, -, rfl⟩ | ⟨old, there, -, -, -, rfl, -⟩
        · exact Table.set_same (by simp)
        · exact List.set_set _
      have placed := prepared.placed row
      rw [same] at placed
      have result : s.request settings scan provider profile keys r fate x =
          { s with calls := left } := by
        simp only [Spending.request, hit, selected, committed, ↓reduceIte]
      rw [result]
      refine ⟨within.budget, within.opened, sent, ?_, spent, uncached⟩
      refine bought.place planned placed member (bought.rowFor planned member prepared) fun _ => ?_
      exact Or.inl (by rw [prepared.status]; rfl)
    | false =>
      obtain ⟨selection, i, row, left, selected, committed, prepared⟩ :=
        prepared_of_chosen chosen (x.preparation r .sent) false
      obtain ⟨retried, fresh⟩ := affordable running hit
      have rowFor := bought.rowFor planned member prepared
      obtain ⟨run, id, cost, started⟩ := closed_row x r row fate
      have newFor : RowFor scan call (x.closed r row fate) :=
        ⟨run.trans rowFor.run, id.trans rowFor.id, cost.trans rowFor.cost⟩
      have placed := prepared.placed (x.closed r row fate)
      have first : call ∉ sent := bought.unsent prepared retried
      have result : s.request settings scan provider profile keys r fate x =
          { s with
            calls := left.set i (x.closed r row fate)
            spent := if fate.sent then s.spent + row.estimatedCost else s.spent } := by
        simp only [Spending.request, hit, selected, committed, Bool.false_eq_true, ↓reduceIte]
      rw [result]
      by_cases goes : fate.sent = true
      · refine ⟨within.budget, within.opened, sent ++ [call],
          bought.buy planned placed member newFor first (started goes), ?_, ?_⟩
        · simp only [goes, ↓reduceIte]
          rw [List.map_append, List.sum_append, ← spent, rowFor.cost]
          simp
        · intro other inSent
          rcases List.mem_append.mp inSent with earlier | last
          · exact uncached other earlier
          · obtain ⟨cache, there⟩ := Option.isSome_iff_exists.mp (within.opened running)
            rw [List.mem_singleton.mp last]
            refine ⟨cache, there, fun known => ?_⟩
            have planned_uncached := fresh (by
              rw [← endpoint, ← (buildScanPlan_known member).2.2, known])
            rw [there] at planned_uncached
            rw [plannedCall_key chosen known]
            exact planned_uncached
      · refine ⟨within.budget, within.opened, sent,
          bought.place planned placed member newFor fun again => absurd again first, ?_, uncached⟩
        simp only [Bool.not_eq_true] at goes
        simp only [goes, Bool.false_eq_true, ↓reduceIte]
        exact spent

theorem Within.begin (within : Within settings scan provider profile keys s) :
    Within settings scan provider profile keys (s.begin settings profile keys) := by
  unfold Spending.begin
  split
  · exact ⟨within.budget, nofun, within.bought⟩
  · rename_i unblocked
    have bound := (ScanPlan.live_unblocked (by simpa using unblocked)).2.1
    refine ⟨fun cache member => ?_, fun _ => by simp, ?_⟩
    · simp only [Option.mem_def, Option.or_eq_some_iff, Option.some.injEq] at member
      rcases member with earlier | ⟨-, rfl⟩
      · exact within.budget cache earlier
      · exact bound
    · obtain ⟨sent, bought, spent, uncached⟩ := within.bought
      refine ⟨sent, bought, spent, fun call member => ?_⟩
      obtain ⟨cache, there, known⟩ := uncached call member
      exact ⟨cache, by simp [Option.mem_def.mp there], known⟩

/-- A request that was sent stays marked so. -/
theorem Within.reclassify (within : Within settings scan provider profile keys s) (i : Nat)
    (status : CallStatus) : Within settings scan provider profile keys (s.reclassify i status) := by
  unfold Spending.reclassify
  split
  · exact within
  · rename_i row found
    split
    · rename_i started
      obtain ⟨sent, bought, spent, uncached⟩ := within.bought
      refine ⟨within.budget, within.opened, sent, ?_, spent, uncached⟩
      have mapped : (s.calls.set i { row with status := status }).map ApiCall.plannedRequestId =
          s.calls.map ApiCall.plannedRequestId := by
        rw [List.map_set]
        exact Table.set_same (by rw [List.getElem?_map, found, Option.map_some])
      refine ⟨fun other member => ?_, mapped ▸ bought.unique, bought.planned, bought.distinct,
        fun call inSent => ?_⟩
      · rcases List.mem_or_eq_of_mem_set member with earlier | rfl
        · exact bought.rows other earlier
        · exact bought.rows row (List.mem_of_getElem? found)
      · obtain ⟨other, there, id, state⟩ := bought.closed call inSent
        obtain ⟨j, bound, rfl⟩ := List.getElem_of_mem there
        by_cases same : i = j
        · subst same
          have own : s.calls[i] = row := by
            rw [List.getElem?_eq_getElem bound] at found
            exact Option.some.inj found
          rw [own] at id
          exact ⟨_, List.mem_set bound _, id, Or.inr (Option.isSome_iff_ne_none.mp started)⟩
        · refine ⟨s.calls[j], ?_, id, state⟩
          refine List.mem_of_getElem? (i := j) ?_
          rw [List.getElem?_set_ne same, List.getElem?_eq_getElem bound]
    · exact within

theorem Within.apply (within : Within settings scan provider profile keys s) {op : SpendOp}
    (affordable : Affordable settings scan provider profile keys s op) :
    Within settings scan provider profile keys (s.apply settings scan provider profile keys op) := by
  cases op with
  | setCache cache => exact ⟨within.budget, within.opened, within.bought⟩
  | begin => exact within.begin
  | request r fate x =>
    simp only [Spending.apply]
    split
    · rename_i running
      exact within.request running fate affordable
    · exact within
  | reclassify i status => exact within.reclassify i status

end Request

/-! ## The limit -/

section Limit
variable {settings : PlanSettings} {scan : Nat} {provider : String} {profile : ScanProfile}
  {keys : PlanKeys} {s : Spending}

/-- The stored calls cost what the drafts cost. -/
theorem scanCalls_cost (cache : String → Bool) :
    (((scanCalls settings scan provider profile keys).filter fun call =>
        !(call.requestKnown && cache call.cacheKey)).map ScanPlanCall.estimatedCost).sum =
      uncachedCost cache (drafts profile settings.free keys) := by
  let draft (call : ScanPlanCall) : CallDraft :=
    ⟨call.endpoint, call.cacheKey, call.estimatedCost, call.requestKnown⟩
  have stored : (scanCalls settings scan provider profile keys).map draft =
      drafts profile settings.free keys := by
    rw [scanCalls, buildScanPlan_eq]
    exact List.ext_getElem (by simp) fun i _ _ => by simp [draft]
  rw [uncachedCost, ← stored, List.filter_map, List.map_map]
  rfl

/-- Requests that were sent once each, and were not cached when the scan was
planned, cost at most the plan. -/
theorem Bought.cost_le {sent : List ScanPlanCall} {cache : String → Bool}
    (bought : Bought (scanCalls settings scan provider profile keys) scan s.calls sent)
    (uncached : ∀ call ∈ sent, call.requestKnown = true → cache call.cacheKey = false) :
    (sent.map ScanPlanCall.estimatedCost).sum ≤
      uncachedCost cache (drafts profile settings.free keys) := by
  have among : sent ⊆ (scanCalls settings scan provider profile keys).filter fun call =>
      !(call.requestKnown && cache call.cacheKey) := by
    intro call member
    refine List.mem_filter.mpr ⟨bought.planned call member, ?_⟩
    cases known : call.requestKnown with
    | false => rfl
    | true => simp [uncached call member known]
  have nonneg (call : ScanPlanCall) (member : call ∈ scanCalls settings scan provider profile keys) :
      0 ≤ call.estimatedCost := by
    rw [scanCalls, buildScanPlan_eq] at member
    obtain ⟨i, bound, rfl⟩ := List.mem_mapIdx.mp member
    exact drafts_cost_nonneg (List.getElem_mem bound)
  obtain ⟨listed, perm, sublist⟩ := List.subperm_of_subset bought.distinct among
  calc (sent.map ScanPlanCall.estimatedCost).sum
      = (listed.map ScanPlanCall.estimatedCost).sum := ((perm.map _).sum_eq).symm
    _ ≤ (((scanCalls settings scan provider profile keys).filter fun call =>
          !(call.requestKnown && cache call.cacheKey)).map ScanPlanCall.estimatedCost).sum := by
        refine (sublist.map _).sum_le_sum fun cost member => ?_
        obtain ⟨call, there, rfl⟩ := List.mem_map.mp member
        exact nonneg call (List.mem_filter.mp there).1
    _ = uncachedCost cache (drafts profile settings.free keys) := scanCalls_cost cache

theorem Within.spent_le (within : Within settings scan provider profile keys s) :
    s.spent ≤ settings.maxScanCost := by
  obtain ⟨sent, bought, spent, uncached⟩ := within.bought
  rw [spent]
  cases first : s.planned with
  | none =>
    have nothing : sent = [] := by
      refine List.eq_nil_iff_forall_not_mem.mpr fun call member => ?_
      obtain ⟨cache, there, -⟩ := uncached call member
      rw [first] at there
      cases there
    rw [nothing]
    exact settings.maxScanCost_nonneg
  | some cache =>
    refine le_trans (bought.cost_le fun call member known => ?_) (within.budget cache first)
    obtain ⟨other, there, missing⟩ := uncached call member
    rw [first] at there
    cases there
    exact missing known

end Limit

theorem within_queued (settings : PlanSettings) (scan : Nat) (provider : String)
    (profile : ScanProfile) (keys : PlanKeys) (cache : String → Bool) :
    Within settings scan provider profile keys (.queued cache) where
  budget := by simp [Spending.queued]
  opened := nofun
  bought := ⟨[], ⟨by simp [Spending.queued], List.nodup_nil, by simp, List.nodup_nil, by simp⟩, rfl,
    by simp⟩

/-- One step of a scan, as a relation. -/
def spends (settings : PlanSettings) (scan : Nat) (provider : String) (profile : ScanProfile)
    (keys : PlanKeys) (s : Spending) (op : SpendOp) (t : Spending) : Prop :=
  t = s.apply settings scan provider profile keys op

/-- **Per-scan cost bound.** While no request is issued again that was sent and
failed, and the responses the scan was planned with are still cached when they
are asked for, what the scan sends stays within the limit. -/
theorem scan_spends_within_limit {settings : PlanSettings} {scan : Nat} {provider : String}
    {profile : ScanProfile} {keys : PlanKeys} {cache : String → Bool} {s : Spending}
    (run : Runs.Reaches (Affordable settings scan provider profile keys)
      (spends settings scan provider profile keys) (.queued cache) s) :
    s.spent ≤ settings.maxScanCost := by
  refine (run.invariant (I := Within settings scan provider profile keys) ?_
    (within_queued settings scan provider profile keys cache)).spent_le
  rintro s op t within affordable rfl
  exact within.apply affordable

/-- The production defaults with a limit of four cents. -/
def fourCents : PlanSettings :=
  { PlanSettings.production with maxScanCost := 4 / 100, maxScanCost_nonneg := by norm_num }

def testingKeys : PlanKeys := ⟨["k1"], "m", fun _ => "s", fun _ => "b", "l1"⟩

def plainExchange (n : Nat) : Exchange :=
  ⟨toString n, none, n, none, none, 0, .production, ⟨0, none, none⟩, ("TimeoutError", "timed out"), n⟩

/-- An attempt whose metrics request ends in a given way. -/
def attemptWith (n : Nat) (metrics : Fate) : List SpendOp :=
  [.begin, .request ⟨keywordEndpoint, "k1"⟩ .completed (plainExchange n),
    .request ⟨metricsEndpoint, "m1"⟩ metrics (plainExchange (n + 1))]

/-- The rest of an attempt. -/
def restFrom (n : Nat) : List SpendOp :=
  [.request ⟨serpEndpoint, "s1"⟩ .completed (plainExchange n),
    .request ⟨listingsEndpoint, "l1"⟩ .completed (plainExchange (n + 1))]

def spendAll (ops : List SpendOp) : Spending :=
  ops.foldl (Spending.apply fourCents 1 "dataforseo-live" .testing testingKeys)
    (.queued fun _ => false)

/-- A testing scan without a failure costs what was planned. -/
theorem one_attempt_within_limit :
    (spendAll (attemptWith 0 .completed ++ restFrom 2)).spent = 36 / 1000 ∧
      (spendAll (attemptWith 0 .completed ++ restFrom 2)).spent ≤ fourCents.maxScanCost := by
  have affordable : Runs.Allowed (Affordable fourCents 1 "dataforseo-live" .testing testingKeys)
      (Spending.apply fourCents 1 "dataforseo-live" .testing testingKeys) (.queued fun _ => false)
      (attemptWith 0 .completed ++ restFrom 2) := by decide +kernel
  exact ⟨by decide +kernel, scan_spends_within_limit affordable.reaches⟩

/-- The metrics request fails after it was sent, and the next attempt sends it
again. -/
theorem retried_request_over_limit :
    let ops := attemptWith 0 .failed ++ .setCache (fun key => key = "k1") ::
      (attemptWith 2 .completed ++ restFrom 4)
    Runs.Reaches (fun _ _ => True) (spends fourCents 1 "dataforseo-live" .testing testingKeys)
        (.queued fun _ => false) (spendAll ops) ∧
      fourCents.maxScanCost < (spendAll ops).spent := by
  refine ⟨Runs.Allowed.reaches ?_, by decide +kernel⟩
  simp [Runs.Allowed, attemptWith, restFrom]

end RankRent.Provider
