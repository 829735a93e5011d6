import Mathlib.Data.List.Perm.Subperm
import RankRent.Provider.PlanFit

/-!
# The first attempt of a scan

An attempt without a failure before its last request, on a scan that has no rows
yet. Every request takes a slot of its own kind, so it is never refused while
the plan has as many slots of every kind as the attempt has requests.
-/

namespace RankRent.Provider

/-- The slots a request may take: those of its key where requests are known, and
else those of its endpoint. -/
def Request.kind (r : Request) : String × Option String :=
  (r.endpoint, if knownEndpoint r.endpoint then some r.key else none)

def CallDraft.kind (draft : CallDraft) : String × Option String :=
  (draft.endpoint, if draft.known then some draft.key else none)

def ScanPlanCall.kind (call : ScanPlanCall) : String × Option String :=
  (call.endpoint, if call.requestKnown then some call.cacheKey else none)

section Plan
variable {plan : List ScanPlanCall} {scan : Nat} {provider : String} {calls left : List ApiCall}
  {used : List ScanPlanCall} {past : List Request} {call : ScanPlanCall} {r : Request} {a : Answer}
  {row : ApiCall}

/-- The plan's requests are known at the endpoints where `build_scan_plan` knows them. -/
def KnownByEndpoint (plan : List ScanPlanCall) : Prop :=
  ∀ call ∈ plan, call.requestKnown = knownEndpoint call.endpoint

/-- A slot of the request's kind that is left is found. -/
theorem plannedCall_of_unused (planned : Planned plan scan provider) (named : KnownByEndpoint plan)
    (member : call ∈ plan) (kind : call.kind = r.kind)
    (unused : consumed calls scan call.plannedRequestId = false) :
    ∃ chosen, plannedCall plan calls (r.site scan provider) = some chosen ∧ chosen ∈ plan ∧
      chosen.kind = r.kind ∧ consumed calls scan chosen.plannedRequestId = false := by
  have endpoint : call.endpoint = r.endpoint := congrArg Prod.fst kind
  have slot : call ∈ slots plan scan provider r.endpoint := (mem_slots planned).mpr ⟨member, endpoint⟩
  have free : call ∈ (slots plan scan provider r.endpoint).filter fun call =>
      !consumed calls scan call.plannedRequestId := List.mem_filter.mpr ⟨slot, by simp [unused]⟩
  have any_chosen {chosen : ScanPlanCall}
      (found : plannedCall plan calls (r.site scan provider) = some chosen) :
      chosen ∈ plan ∧ chosen.endpoint = r.endpoint ∧
        consumed calls scan chosen.plannedRequestId = false := by
    obtain ⟨there, idle⟩ := plannedCall_some found
    obtain ⟨inPlan, same⟩ := (mem_slots planned).mp there
    exact ⟨inPlan, same, idle⟩
  by_cases known : knownEndpoint r.endpoint = true
  · have isKnown : call.requestKnown = true := by rw [named call member, endpoint, known]
    have key : call.cacheKey = r.key := by
      have second := congrArg Prod.snd kind
      simpa [ScanPlanCall.kind, Request.kind, isKnown, known] using second
    rcases plannedCall_known slot isKnown with ⟨chosen, found, chosenKnown, chosenKey⟩ | ⟨-, used⟩
    · obtain ⟨inPlan, same, idle⟩ := any_chosen found
      refine ⟨chosen, found, inPlan, ?_, idle⟩
      rw [ScanPlanCall.kind, Request.kind, same, chosenKnown, known, if_pos rfl, if_pos rfl,
        chosenKey]
    · rw [used call slot isKnown key] at unused
      cases unused
  · rw [Bool.not_eq_true] at known
    have anonymous : Anonymous plan scan provider r.endpoint := by
      intro other there
      obtain ⟨inPlan, same⟩ := (mem_slots planned).mp there
      rw [named other inPlan, same, known]
    obtain ⟨chosen, found⟩ : ∃ chosen, plannedCall plan calls (r.site scan provider) = some chosen := by
      rw [plannedCall_unknown anonymous]
      exact Option.isSome_iff_exists.mp (List.isSome_head?.mpr (List.ne_nil_of_mem free))
    obtain ⟨inPlan, same, idle⟩ := any_chosen found
    refine ⟨chosen, found, inPlan, ?_, idle⟩
    rw [ScanPlanCall.kind, Request.kind, same, named chosen inPlan, same, known]
    rfl

/-- The rows of an attempt that has only been answered: each stands for a slot of
its request's kind. -/
structure Filled (plan : List ScanPlanCall) (scan : Nat) (calls : List ApiCall)
    (used : List ScanPlanCall) (past : List Request) : Prop where
  planned : ∀ call ∈ used, call ∈ plan
  kinds : used.map ScanPlanCall.kind = past.map Request.kind
  distinct : used.Nodup
  spent : ∀ id, consumed calls scan id = true ↔ ∃ call ∈ used, call.plannedRequestId = id
  answered : ∀ row ∈ calls, row.scanRunId = some scan → row.status.retryable = false

/-- A kind with more slots than requests has one left. -/
theorem Filled.unused (planned : Planned plan scan provider)
    (filled : Filled plan scan calls used past) {kind : String × Option String}
    (room : (past.map Request.kind).count kind < (plan.map ScanPlanCall.kind).count kind) :
    ∃ call ∈ plan, call.kind = kind ∧ consumed calls scan call.plannedRequestId = false := by
  by_contra full
  have taken : plan.filter (fun call => call.kind = kind) ⊆
      used.filter fun call => call.kind = kind := by
    intro call member
    simp only [List.mem_filter, decide_eq_true_eq] at member ⊢
    obtain ⟨inPlan, same⟩ := member
    refine ⟨?_, same⟩
    have there : consumed calls scan call.plannedRequestId = true := by
      by_contra idle
      exact full ⟨call, inPlan, same, by simpa using idle⟩
    obtain ⟨other, inUsed, id⟩ := (filled.spent _).mp there
    rwa [← planned_eq planned (filled.planned other inUsed) inPlan id]
  have nodup : (plan.filter fun call => call.kind = kind).Nodup :=
    (List.Nodup.of_map _ planned.distinct).filter _
  have bound := (List.subperm_of_subset nodup taken).length_le
  rw [← filled.kinds] at room
  have count (calls : List ScanPlanCall) : (calls.map ScanPlanCall.kind).count kind =
      (calls.filter fun call => call.kind = kind).length := by
    rw [List.count, List.countP_map, List.countP_eq_length_filter]
    simp only [Function.comp_def, beq_eq_decide]
  rw [count, count] at room
  omega

/-- A request of a kind that has a slot left is issued, and an answer uses the
slot up. -/
theorem Filled.issue (planned : Planned plan scan provider) (named : KnownByEndpoint plan)
    (filled : Filled plan scan calls used past)
    (room : (past.map Request.kind).count r.kind < (plan.map ScanPlanCall.kind).count r.kind)
    (a : Answer) (x : Exchange) :
    ∃ left, Provider.issue plan scan provider calls r a x = some left ∧
      (a.success = true → ∃ call, Filled plan scan left (used ++ [call]) (past ++ [r])) := by
  obtain ⟨slot, inPlan, kind, unused⟩ := filled.unused planned room
  obtain ⟨call, chosen, member, same, idle⟩ := plannedCall_of_unused planned named inPlan kind unused
  obtain ⟨row, left, issued, takes⟩ := issue_taken chosen a x
  refine ⟨left, issued, fun success => ⟨call, ?_⟩⟩
  have closed : row.status.retryable = false := by
    rcases takes.success success with status | status <;> rw [status] <;> rfl
  have fresh : left = calls ++ [row] := by
    rcases takes.place with ⟨-, -, -, grown⟩ | ⟨i, old, there, stands, retryable, -⟩
    · exact grown
    · have final := filled.answered old (List.mem_of_getElem? there) (standsFor_iff.mp stands).1
      rw [final] at retryable
      cases retryable
  subst fresh
  refine ⟨?_, ?_, ?_, ?_, ?_⟩
  · intro other there
    rcases List.mem_append.mp there with earlier | last
    · exact filled.planned other earlier
    · rwa [List.mem_singleton.mp last]
  · rw [List.map_append, List.map_append, filled.kinds, List.map_singleton, List.map_singleton, same]
  · refine List.nodup_append.mpr ⟨filled.distinct, List.nodup_singleton _, ?_⟩
    intro other there last single equal
    rw [List.mem_singleton.mp single] at equal
    rw [(filled.spent _).mpr ⟨other, there, congrArg _ equal⟩] at idle
    cases idle
  · intro id
    have own : consumed (calls ++ [row]) scan id = true ↔
        consumed calls scan id = true ∨ call.plannedRequestId = id := by
      simp only [Provider.consumed, List.any_append, List.any_cons, List.any_nil, Bool.or_false,
        Bool.or_eq_true, closed, Bool.not_false, Bool.and_true, standsFor_iff, takes.run, takes.id,
        true_and, Option.some.injEq]
    rw [own, filled.spent]
    simp only [List.mem_append, List.mem_singleton]
    constructor
    · rintro (⟨other, there, id⟩ | id)
      · exact ⟨other, Or.inl there, id⟩
      · exact ⟨call, Or.inr rfl, id⟩
    · rintro ⟨other, there | rfl, id⟩
      · exact Or.inl ⟨other, there, id⟩
      · exact Or.inr id
  · intro other there mine
    rcases List.mem_append.mp there with earlier | last
    · exact filled.answered other earlier mine
    · rw [List.mem_singleton.mp last, closed]

/-- The answered requests of an attempt that fits its plan. -/
theorem Filled.replay (planned : Planned plan scan provider) (named : KnownByEndpoint plan)
    (x : Nat → Exchange) {events : List (Request × Answer)} {n : Nat}
    (filled : Filled plan scan calls used past)
    (answered : ∀ event ∈ events, event.2.success = true)
    (room : ∀ kind, ((past ++ events.map Prod.fst).map Request.kind).count kind ≤
      (plan.map ScanPlanCall.kind).count kind) :
    ∃ left used, Provider.replay plan scan provider x n calls events = some left ∧
      Filled plan scan left used (past ++ events.map Prod.fst) := by
  induction events generalizing n calls used past with
  | nil => exact ⟨calls, used, rfl, by simpa using filled⟩
  | cons event events ih =>
    obtain ⟨r, a⟩ := event
    have first : (past.map Request.kind).count r.kind < (plan.map ScanPlanCall.kind).count r.kind := by
      have all := room r.kind
      simp only [List.map_cons, List.map_append, List.count_append, List.count_cons_self] at all
      omega
    obtain ⟨left, issued, grows⟩ := filled.issue planned named first a (x n)
    obtain ⟨call, filled'⟩ := grows (answered (r, a) List.mem_cons_self)
    obtain ⟨last, used', replayed, filled''⟩ := ih (n := n + 1) filled'
      (fun event member => answered event (List.mem_cons_of_mem _ member))
      (fun kind => by simpa using room kind)
    refine ⟨last, used', ?_, by simpa using filled''⟩
    simp only [Provider.replay, issued]
    exact replayed

/-- The rows before the first request of a scan. -/
theorem filled_start (fresh : ∀ row ∈ calls, row.scanRunId ≠ some scan) :
    Filled plan scan calls [] [] where
  planned := by simp
  kinds := rfl
  distinct := List.nodup_nil
  spent := by
    intro id
    simp only [consumed_iff, standsFor_iff, List.not_mem_nil, false_and, exists_false, iff_false]
    rintro ⟨row, member, ⟨mine, -⟩, -⟩
    exact fresh row member mine
  answered := fun row member mine => absurd mine (fresh row member)

/-- No request of a first attempt is refused: with as many slots of each kind as
requests, every request up to the first failure is issued, and so is that one. -/
theorem first_attempt_issued (planned : Planned plan scan provider) (named : KnownByEndpoint plan)
    (fresh : ∀ row ∈ calls, row.scanRunId ≠ some scan) (x : Nat → Exchange)
    {earlier : List (Request × Answer)} {later : List Request}
    (answered : ∀ event ∈ earlier, event.2.success = true)
    (room : ∀ kind, ((earlier.map Prod.fst ++ r :: later).map Request.kind).count kind ≤
      (plan.map ScanPlanCall.kind).count kind) (a : Answer) :
    (Provider.replay plan scan provider x 0 calls (earlier ++ [(r, a)])).isSome = true := by
  have before (kind : String × Option String) :
      (([] ++ earlier.map Prod.fst).map Request.kind).count kind ≤
        (plan.map ScanPlanCall.kind).count kind := by
    have all := room kind
    simp only [List.map_append, List.count_append, List.nil_append] at all ⊢
    omega
  obtain ⟨left, used, replayed, filled⟩ :=
    (filled_start fresh).replay planned named x (n := 0) answered before
  have next : ((([] : List Request) ++ earlier.map Prod.fst).map Request.kind).count r.kind <
      (plan.map ScanPlanCall.kind).count r.kind := by
    have all := room r.kind
    simp only [List.map_append, List.map_cons, List.count_append, List.count_cons_self,
      List.nil_append] at all ⊢
    omega
  obtain ⟨last, issued, -⟩ := filled.issue planned named next a (x (0 + earlier.length))
  rw [replay_append, replayed, Option.bind_some]
  simp only [Provider.replay, issued, Option.isSome_some]

end Plan

end RankRent.Provider
