import Mathlib.Data.List.Nodup
import RankRent.CostControls.Operations
import RankRent.Library.Table
import RankRent.Provider.Planning

/-!
# Retries of a planned scan

The attempts of one scan, each issuing the same ordered list of requests until
one fails. A request whose response is cached is recorded as a hit; every hit
and every answer takes a slot of the plan, and a failed request leaves its slot
to the next one.
-/

namespace RankRent.Provider

structure Request where
  endpoint : String
  key : String
  deriving DecidableEq

inductive Answer
  | hit
  | sent
  | failed (beforeNetwork : Bool)
  deriving DecidableEq

def Answer.success : Answer → Bool
  | .hit | .sent => true
  | .failed _ => false

/-- What a call records that its slot does not depend on. -/
structure Exchange where
  attemptToken : String
  lease : Option ScanExecutionLease
  responseId : Nat
  taskId : Option String
  requestId : Option String
  day : Date
  cls : UsageClass
  payload : CallPayload
  error : String × String
  now : DateTime

def Exchange.preparation (x : Exchange) (r : Request) (a : Answer) : Preparation :=
  ⟨a = .hit, false, x.attemptToken, x.lease,
    if a = .hit then some ⟨x.responseId, r.key, x.taskId, x.requestId⟩ else none, x.now⟩

/-- The row of a call once it is answered. -/
def Exchange.answered (x : Exchange) (r : Request) (row : ApiCall) : Answer → ApiCall
  | .hit => row
  | .sent =>
    ((((row.reserve x.day x.cls row.estimatedCost).submit x.now).finish
      ⟨.completed, some x.payload, some x.responseId, some r.key, none, x.now⟩)).settle false x.now
  | .failed true =>
    ((row.reserve x.day x.cls row.estimatedCost).finish
      ⟨.failedBeforeNetwork, none, none, none, some x.error, x.now⟩).settle false x.now
  | .failed false =>
    (((row.reserve x.day x.cls row.estimatedCost).submit x.now).finish
      ⟨.failed, none, none, none, some x.error, x.now⟩).settle false x.now

section Plan
variable (plan : List ScanPlanCall) (scan : Nat) (provider : String)

def Request.site (r : Request) : CallSite := ⟨scan, provider, r.endpoint, r.key⟩

/-- One request of an attempt; `none` when it is refused. -/
def issue (calls : List ApiCall) (r : Request) (a : Answer) (x : Exchange) :
    Option (List ApiCall) :=
  match selectCall plan calls (r.site scan provider) (a = .hit) with
  | none => none
  | some selection =>
    match commitCall calls (r.site scan provider) (x.preparation r a) selection with
    | none => none
    | some (calls, i, row) => some (if a = .hit then calls else calls.set i (x.answered r row a))

/-- The requests of a scan in order; `x n` is the n-th exchange. -/
def replay (x : Nat → Exchange) :
    Nat → List ApiCall → List (Request × Answer) → Option (List ApiCall)
  | _, calls, [] => some calls
  | n, calls, (r, a) :: rest =>
    match issue plan scan provider calls r a (x n) with
    | none => none
    | some calls => replay x (n + 1) calls rest

end Plan

/-! ## Attempts -/

/-- One attempt: what is cached is a hit, the rest is sent, up to the first
failure (`some` of whether it came before the network). Also the cache after it. -/
def attempt (outcome : Request → Option Bool) :
    List Request → List Request → List (Request × Answer) × List Request
  | cached, [] => ([], cached)
  | cached, r :: rest =>
    if r ∈ cached then
      let (events, cached) := attempt outcome cached rest
      ((r, .hit) :: events, cached)
    else
      match outcome r with
      | some beforeNetwork => ([(r, .failed beforeNetwork)], cached)
      | none =>
        let (events, cached) := attempt outcome (r :: cached) rest
        ((r, .sent) :: events, cached)

/-- The requests of all attempts, one after another. -/
def attempts (requests : List Request) :
    List Request → List (Request → Option Bool) → List (Request × Answer)
  | _, [] => []
  | cached, outcome :: more =>
    (attempt outcome cached requests).1 ++ attempts requests (attempt outcome cached requests).2 more

/-! ## Slots -/

section Slots
variable (plan : List ScanPlanCall) (scan : Nat) (provider : String)

/-- The planned requests of an endpoint. -/
def slots (endpoint : String) : List ScanPlanCall := matching plan ⟨scan, provider, endpoint, ""⟩

/-- None of the endpoint's requests is known when the plan is made. -/
def Anonymous (endpoint : String) : Prop :=
  ∀ call ∈ slots plan scan provider endpoint, call.requestKnown = false

end Slots

/-- The answers an endpoint has given so far. -/
def succeeded (past : List (Request × Answer)) (endpoint : String) : Nat :=
  past.countP fun event => event.1.endpoint = endpoint && event.2.success

/-- The request was answered before. -/
def Answered (past : List (Request × Answer)) (r : Request) : Prop :=
  ∃ a : Answer, a.success = true ∧ (r, a) ∈ past

/-- A request of an anonymous endpoint was answered before, or comes while the
endpoint has given fewer answers than it has slots. -/
def Fits (plan : List ScanPlanCall) (scan : Nat) (provider : String)
    (past : List (Request × Answer)) (r : Request) : Prop :=
  Anonymous plan scan provider r.endpoint →
    Answered past r ∨ succeeded past r.endpoint < (slots plan scan provider r.endpoint).length

/-- Every request that follows `past` fits the plan when it is issued. -/
def FitsPlan (plan : List ScanPlanCall) (scan : Nat) (provider : String)
    (past events : List (Request × Answer)) : Prop :=
  ∀ earlier r a rest, events = earlier ++ (r, a) :: rest →
    Fits plan scan provider (past ++ earlier) r

/-! ## One request -/

/-- The identity of a row, which no answer changes. -/
theorem answered_identity (x : Exchange) (r : Request) (row : ApiCall) (a : Answer) :
    (x.answered r row a).scanRunId = row.scanRunId ∧
      (x.answered r row a).plannedRequestId = row.plannedRequestId ∧
      (x.answered r row a).endpoint = row.endpoint := by
  have finished (row : ApiCall) (record : CallRecord) :
      (row.finish record).scanRunId = row.scanRunId ∧
        (row.finish record).plannedRequestId = row.plannedRequestId ∧
        (row.finish record).endpoint = row.endpoint := by
    unfold ApiCall.finish
    split <;> exact ⟨rfl, rfl, rfl⟩
  cases a with
  | hit => exact ⟨rfl, rfl, rfl⟩
  | sent => exact finished _ _
  | failed beforeNetwork => cases beforeNetwork <;> exact finished _ _

theorem answered_sent (x : Exchange) (r : Request) (row : ApiCall) :
    (x.answered r row .sent).status = .completed ∧ (x.answered r row .sent).cacheKey = r.key := by
  simp [Exchange.answered, ApiCall.settle, ApiCall.finish, ApiCall.submit]

theorem answered_failed (x : Exchange) (r : Request) {row : ApiCall} (fresh : row.status = .prepared)
    (beforeNetwork : Bool) :
    (x.answered r row (.failed beforeNetwork)).status.retryable = true ∧
      (x.answered r row (.failed beforeNetwork)).cacheKey = row.cacheKey := by
  cases beforeNetwork <;>
    simp [Exchange.answered, ApiCall.settle, ApiCall.finish, ApiCall.submit, ApiCall.reserve, fresh,
      CallStatus.retryable]

/-- What a request leaves in the slot it took: its row, and whether the slot had
a failed row before. -/
structure Takes (scan : Nat) (calls : List ApiCall) (call : ScanPlanCall) (r : Request) (a : Answer)
    (row : ApiCall) (left : List ApiCall) : Prop where
  run : row.scanRunId = some scan
  id : row.plannedRequestId = some call.plannedRequestId
  success : a.success = true → row.status = .completed ∨ row.status = .cacheHit
  failure : a.success = false → row.status.retryable = true
  sent : a = .sent → row.cacheKey = r.key
  place : ((∀ other ∈ calls, standsFor other scan call.plannedRequestId = false) ∧
      row.endpoint = r.endpoint ∧ row.cacheKey = r.key ∧ left = calls ++ [row]) ∨
    ∃ i old, calls[i]? = some old ∧ standsFor old scan call.plannedRequestId = true ∧
      old.status.retryable = true ∧ row.endpoint = old.endpoint ∧
      (a ≠ .sent → row.cacheKey = old.cacheKey) ∧ left = calls.set i row

section Issue
variable {plan : List ScanPlanCall} {scan : Nat} {provider : String} {calls : List ApiCall}
  {r : Request}

/-- A prepared row and its answer. -/
theorem answered_takes (x : Exchange) (a : Answer) {row : ApiCall}
    (status : row.status = (x.preparation r a).status) :
    (a.success = true → (if a = .hit then row else x.answered r row a).status = .completed ∨
        (if a = .hit then row else x.answered r row a).status = .cacheHit) ∧
      (a.success = false →
        (if a = .hit then row else x.answered r row a).status.retryable = true) ∧
      (a = .sent → (if a = .hit then row else x.answered r row a).cacheKey = r.key) ∧
      (a ≠ .sent → (if a = .hit then row else x.answered r row a).cacheKey = row.cacheKey) := by
  cases a with
  | hit =>
    refine ⟨fun _ => Or.inr ?_, nofun, nofun, fun _ => rfl⟩
    simpa [Exchange.preparation, Preparation.status] using status
  | sent =>
    obtain ⟨completed, key⟩ := answered_sent x r row
    exact ⟨fun _ => Or.inl completed, nofun, fun _ => key, fun other => absurd rfl other⟩
  | failed beforeNetwork =>
    have prepared : row.status = .prepared := by
      simpa [Exchange.preparation, Preparation.status] using status
    obtain ⟨failed, key⟩ := answered_failed x r prepared beforeNetwork
    exact ⟨nofun, fun _ => failed, nofun, fun _ => key⟩

/-- A request with a planned call is issued on that call's slot. -/
theorem issue_taken {call : ScanPlanCall}
    (chosen : plannedCall plan calls (r.site scan provider) = some call) (a : Answer)
    (x : Exchange) :
    ∃ row left, issue plan scan provider calls r a x = some left ∧
      Takes scan calls call r a row left := by
  obtain ⟨selection, i, row, left, selected, committed, prepared⟩ :=
    prepared_of_chosen chosen (x.preparation r a) (a = .hit)
  obtain ⟨success, failure, sent, kept⟩ := answered_takes x a prepared.status
  have ids := answered_identity x r row a
  have issued : issue plan scan provider calls r a x =
      some (left.set i (if a = .hit then row else x.answered r row a)) := by
    simp only [issue, selected, committed]
    by_cases hit : a = .hit
    · rw [if_pos hit, if_pos hit]
      rcases prepared.place with ⟨-, rfl, -, rfl, -⟩ | ⟨old, there, -, -, -, rfl, -⟩
      · rw [Table.set_same (by simp)]
      · rw [List.set_set]
    · rw [if_neg hit, if_neg hit]
  have run : (if a = .hit then row else x.answered r row a).scanRunId = some scan := by
    split
    · exact prepared.run
    · exact ids.1.trans prepared.run
  have id : (if a = .hit then row else x.answered r row a).plannedRequestId =
      some call.plannedRequestId := by
    split
    · exact prepared.id
    · exact ids.2.1.trans prepared.id
  have endpoint : (if a = .hit then row else x.answered r row a).endpoint = row.endpoint := by
    split
    · rfl
    · exact ids.2.2
  refine ⟨_, _, issued, run, id, success, failure, sent, ?_⟩
  rcases prepared.place with ⟨free, rfl, rfl, rfl⟩ | ⟨old, there, stands, failed, rfl, rfl, -⟩
  · have key : (call.row (r.site scan provider) (x.preparation r a)).cacheKey = r.key := by
      simp only [ScanPlanCall.row, ApiCall.new, Exchange.preparation, Request.site]
      split <;> rfl
    refine Or.inl ⟨free, endpoint, ?_, by simp⟩
    by_cases fresh : a = .sent
    · exact sent fresh
    · exact (kept fresh).trans key
  · exact Or.inr ⟨i, old, there, stands, failed, endpoint, kept, List.set_set _⟩

/-- Without a planned call only a hit with a row of its own is let through. -/
theorem issue_unplanned (left : plannedCall plan calls (r.site scan provider) = none) (a : Answer)
    (x : Exchange) :
    (∃ row ∈ calls, answers row (r.site scan provider) = true) ∧ a = .hit ∧
        issue plan scan provider calls r a x = some calls ∨
      (¬ ((∃ row ∈ calls, answers row (r.site scan provider) = true) ∧ a = .hit)) ∧
        issue plan scan provider calls r a x = none := by
  unfold issue selectCall
  simp only [left]
  by_cases hit : a = .hit
  · simp only [hit, decide_true, ↓reduceIte, and_true]
    cases found : firstRow calls fun row => answers row (r.site scan provider) with
    | some entry =>
      obtain ⟨row, i⟩ := entry
      obtain ⟨there, holds⟩ := firstRow_some found
      refine Or.inl ⟨⟨row, List.mem_of_getElem? there, holds⟩, ?_⟩
      simp [commitCall, there]
    | none =>
      refine Or.inr ⟨?_, rfl⟩
      rintro ⟨row, member, holds⟩
      rw [firstRow_none found row member] at holds
      cases holds
  · simp [hit]

end Issue

/-! ## The rows of a scan -/

/-- The rows of a scan after `past`. -/
structure Replayed (plan : List ScanPlanCall) (scan : Nat) (provider : String)
    (calls : List ApiCall) (cached : List Request) (past : List (Request × Answer)) : Prop where
  rows : ∀ row ∈ calls, row.scanRunId = some scan ∧ ∃ call ∈ plan,
    row.plannedRequestId = some call.plannedRequestId ∧ row.endpoint = call.endpoint ∧
      (call.requestKnown = true → row.cacheKey = call.cacheKey)
  status : ∀ row ∈ calls, row.status.retryable = true ∨ row.status = .completed ∨
    row.status = .cacheHit
  unique : (calls.map ApiCall.plannedRequestId).Nodup
  known : ∀ call ∈ plan, call.requestKnown = true →
    consumed calls scan call.plannedRequestId = true → ⟨call.endpoint, call.cacheKey⟩ ∈ cached
  filled : ∀ e, Anonymous plan scan provider e → ∀ j call,
    (slots plan scan provider e)[j]? = some call →
    (consumed calls scan call.plannedRequestId = true ↔ j < succeeded past e)
  idle : ∀ row ∈ calls, Anonymous plan scan provider row.endpoint → row.status.retryable = true →
    ∃ call, (slots plan scan provider row.endpoint)[succeeded past row.endpoint]? = some call ∧
      row.plannedRequestId = some call.plannedRequestId
  named : ∀ r, Anonymous plan scan provider r.endpoint → Answered past r →
    ∃ row ∈ calls, answers row (r.site scan provider) = true
  truthful : ∀ row ∈ calls, Anonymous plan scan provider row.endpoint →
    ⟨row.endpoint, row.cacheKey⟩ ∈ cached → Answered past ⟨row.endpoint, row.cacheKey⟩
  cached : ∀ r, Answered past r → r ∈ cached

section Rows
variable {plan : List ScanPlanCall} {scan : Nat} {provider : String} {calls left : List ApiCall}
  {cached : List Request} {past : List (Request × Answer)} {call : ScanPlanCall} {r : Request}
  {a : Answer} {row : ApiCall}

theorem mem_slots (planned : Planned plan scan provider) {e : String} :
    call ∈ slots plan scan provider e ↔ call ∈ plan ∧ call.endpoint = e := by
  simp only [slots, matching, List.mem_filter, decide_eq_true_eq]
  constructor
  · rintro ⟨member, -, -, endpoint⟩
    exact ⟨member, endpoint⟩
  · rintro ⟨member, endpoint⟩
    obtain ⟨mine, ours⟩ := planned.mine call member
    exact ⟨member, mine, ours, endpoint⟩

theorem planned_eq (planned : Planned plan scan provider) {other : ScanPlanCall}
    (member : call ∈ plan) (there : other ∈ plan)
    (same : call.plannedRequestId = other.plannedRequestId) : call = other :=
  List.inj_on_of_nodup_map planned.distinct member there same

/-- The rows after a request: its own, and those of other slots. -/
theorem Takes.placed (takes : Takes scan calls call r a row left) : Placed scan calls call row left := by
  rcases takes.place with ⟨free, -, -, rfl⟩ | ⟨i, old, there, stands, failed, -, -, rfl⟩
  · exact .inserted free
  · exact .reset there stands failed

theorem Takes.mem (takes : Takes scan calls call r a row left)
    (replayed : Replayed plan scan provider calls cached past) {other : ApiCall} :
    other ∈ left ↔ other = row ∨
      other ∈ calls ∧ other.plannedRequestId ≠ some call.plannedRequestId :=
  takes.placed.mem (fun row member => (replayed.rows row member).1) replayed.unique

theorem Takes.unique (takes : Takes scan calls call r a row left)
    (replayed : Replayed plan scan provider calls cached past) :
    (left.map ApiCall.plannedRequestId).Nodup :=
  takes.placed.unique (fun row member => (replayed.rows row member).1) replayed.unique takes.id

/-- A request uses its own slot up if it is answered, and no other. -/
theorem Takes.consumed (takes : Takes scan calls call r a row left)
    (replayed : Replayed plan scan provider calls cached past) (id : String) :
    Provider.consumed left scan id = true ↔
      if id = call.plannedRequestId then a.success = true
      else Provider.consumed calls scan id = true := by
  have members (other : ApiCall) : other ∈ left ↔ other = row ∨
      other ∈ calls ∧ other.plannedRequestId ≠ some call.plannedRequestId := takes.mem replayed
  simp only [consumed_iff, members, standsFor_iff]
  split
  · rename_i own
    subst own
    constructor
    · rintro ⟨other, rfl | ⟨-, differs⟩, ⟨-, planned⟩, used⟩
      · cases success : a.success with
        | true => rfl
        | false =>
          rw [takes.failure success] at used
          cases used
      · exact absurd planned differs
    · intro success
      refine ⟨row, Or.inl rfl, ⟨takes.run, takes.id⟩, ?_⟩
      rcases takes.success success with status | status <;> rw [status] <;> rfl
  · rename_i other_id
    constructor
    · rintro ⟨other, rfl | ⟨member, -⟩, stands, used⟩
      · rw [takes.id] at stands
        exact absurd (Option.some.inj stands.2).symm other_id
      · exact ⟨other, member, stands, used⟩
    · rintro ⟨other, member, stands, used⟩
      refine ⟨other, Or.inr ⟨member, ?_⟩, stands, used⟩
      rw [stands.2]
      exact fun same => other_id (Option.some.inj same)

theorem succeeded_snoc (past : List (Request × Answer)) (r : Request) (a : Answer) (e : String) :
    succeeded (past ++ [(r, a)]) e =
      succeeded past e + if r.endpoint = e ∧ a.success = true then 1 else 0 := by
  unfold succeeded
  rw [List.countP_append, List.countP_singleton]
  simp

theorem answered_snoc {past : List (Request × Answer)} {r q : Request} {a : Answer} :
    Answered (past ++ [(r, a)]) q ↔ Answered past q ∨ q = r ∧ a.success = true := by
  unfold Answered
  constructor
  · rintro ⟨b, success, member⟩
    rcases List.mem_append.mp member with member | single
    · exact Or.inl ⟨b, success, member⟩
    · cases List.mem_singleton.mp single
      exact Or.inr ⟨rfl, success⟩
  · rintro (⟨b, success, member⟩ | ⟨rfl, success⟩)
    · exact ⟨b, success, List.mem_append_left _ member⟩
    · exact ⟨a, success, List.mem_append_right _ (List.mem_singleton_self _)⟩

theorem slots_index (planned : Planned plan scan provider) {e : String} {j k : Nat}
    {other : ScanPlanCall} (first : (slots plan scan provider e)[j]? = some call)
    (second : (slots plan scan provider e)[k]? = some other)
    (same : call.plannedRequestId = other.plannedRequestId) : j = k := by
  have distinct : ((slots plan scan provider e).map ScanPlanCall.plannedRequestId).Nodup :=
    planned.distinct.sublist (List.filter_sublist.map _)
  have bound := (List.getElem?_eq_some_iff.mp first).1
  refine (List.getElem?_inj (by simpa using bound) distinct).mp ?_
  rw [List.getElem?_map, List.getElem?_map, first, second, Option.map_some, Option.map_some, same]

/-- At an anonymous endpoint the first unused slot is taken. -/
theorem plannedCall_unknown (anonymous : Anonymous plan scan provider r.endpoint) :
    plannedCall plan calls (r.site scan provider) =
      ((slots plan scan provider r.endpoint).filter fun call =>
        !consumed calls scan call.plannedRequestId).head? := by
  have none_known : (slots plan scan provider r.endpoint).any ScanPlanCall.requestKnown = false := by
    rw [List.any_eq_false]
    intro call member
    rw [anonymous call member]
    exact Bool.false_ne_true
  have same : matching plan (r.site scan provider) = slots plan scan provider r.endpoint := rfl
  have site : (r.site scan provider).scan = scan := rfl
  unfold plannedCall
  simp only [same, site, none_known, Bool.false_eq_true, ↓reduceIte]
  have unknown : ∀ call ∈ (slots plan scan provider r.endpoint).filter (fun call =>
      !consumed calls scan call.plannedRequestId), call.requestKnown = false :=
    fun call member => anonymous call (List.mem_filter.mp member).1
  cases rest : (slots plan scan provider r.endpoint).filter fun call =>
      !consumed calls scan call.plannedRequestId with
  | nil => rfl
  | cons call more =>
    rw [rest] at unknown
    have no_exact : (call :: more).find? (fun call =>
        call.requestKnown && decide (call.cacheKey = (r.site scan provider).key)) = none := by
      refine List.find?_eq_none.mpr fun other member => ?_
      simp [unknown other member]
    rw [no_exact]
    simp [unknown call List.mem_cons_self]

/-- At an anonymous endpoint the next slot is the first without an answer. -/
theorem plannedCall_anonymous (replayed : Replayed plan scan provider calls cached past)
    (anonymous : Anonymous plan scan provider r.endpoint) :
    plannedCall plan calls (r.site scan provider) =
      (slots plan scan provider r.endpoint)[succeeded past r.endpoint]? := by
  have unused : (slots plan scan provider r.endpoint).filter (fun call =>
      !consumed calls scan call.plannedRequestId) =
      (slots plan scan provider r.endpoint).drop (succeeded past r.endpoint) := by
    refine Table.filter_eq_drop fun j call there => ?_
    have filled := replayed.filled r.endpoint anonymous j call there
    rw [Bool.not_eq_true', ← Bool.not_eq_true, filled, Nat.not_lt]
  rw [plannedCall_unknown anonymous, unused, List.head?_drop]

/-- At an endpoint with known requests: an unused one with this key, or all of
them are used up. -/
theorem plannedCall_known {known : ScanPlanCall}
    (there : known ∈ slots plan scan provider r.endpoint) (isKnown : known.requestKnown = true) :
    (∃ call, plannedCall plan calls (r.site scan provider) = some call ∧
        call.requestKnown = true ∧ call.cacheKey = r.key) ∨
      plannedCall plan calls (r.site scan provider) = none ∧
        ∀ call ∈ slots plan scan provider r.endpoint, call.requestKnown = true →
          call.cacheKey = r.key → consumed calls scan call.plannedRequestId = true := by
  have same : matching plan (r.site scan provider) = slots plan scan provider r.endpoint := rfl
  have site : (r.site scan provider).scan = scan := rfl
  have key : (r.site scan provider).key = r.key := rfl
  have any_known : (slots plan scan provider r.endpoint).any ScanPlanCall.requestKnown = true :=
    List.any_eq_true.mpr ⟨known, there, isKnown⟩
  unfold plannedCall
  simp only [same, site, key]
  split
  · rename_i call chosen
    have exact_ := List.find?_some chosen
    simp only [Bool.and_eq_true, decide_eq_true_eq] at exact_
    exact Or.inl ⟨call, rfl, exact_⟩
  · rename_i refused
    refine Or.inr ⟨if_pos any_known, fun call member knows same => ?_⟩
    by_contra free
    have unused : call ∈ (slots plan scan provider r.endpoint).filter fun call =>
        !consumed calls scan call.plannedRequestId := by
      rw [List.mem_filter]
      exact ⟨member, by simpa using free⟩
    have := List.find?_eq_none.mp refused call unused
    simp [knows, same] at this

/-! ## One more answer -/

/-- How an answer fits the cache it was given in, and the cache after it. -/
inductive Caches (cached : List Request) (r : Request) : Answer → List Request → Prop
  | hit : r ∈ cached → Caches cached r .hit cached
  | sent : r ∉ cached → Caches cached r .sent (r :: cached)
  | failed (beforeNetwork : Bool) : r ∉ cached → Caches cached r (.failed beforeNetwork) cached

theorem Caches.mem {cached' : List Request} (caches : Caches cached r a cached') {q : Request} :
    q ∈ cached' ↔ q ∈ cached ∨ q = r ∧ a.success = true := by
  cases caches with
  | hit member =>
    constructor
    · exact Or.inl
    · rintro (earlier | ⟨rfl, -⟩)
      · exact earlier
      · exact member
  | sent _ => simp [Answer.success, or_comm]
  | failed beforeNetwork _ => simp [Answer.success]

theorem Caches.fresh {cached' : List Request} (caches : Caches cached r a cached')
    (known : r ∈ cached) : a = .hit := by
  cases caches with
  | hit _ => rfl
  | sent missing => exact absurd known missing
  | failed beforeNetwork missing => exact absurd known missing

/-- The row of a slot is one of the slot's endpoint. -/
theorem Takes.endpoint (takes : Takes scan calls call r a row left)
    (planned : Planned plan scan provider)
    (replayed : Replayed plan scan provider calls cached past)
    (slot : call ∈ slots plan scan provider r.endpoint) : row.endpoint = r.endpoint := by
  rcases takes.place with ⟨-, endpoint, -, -⟩ | ⟨i, old, there, stands, -, endpoint, -, -⟩
  · exact endpoint
  · obtain ⟨-, other, member, id, old_endpoint, -⟩ :=
      replayed.rows old (List.mem_of_getElem? there)
    obtain ⟨inPlan, same⟩ := (mem_slots planned).mp slot
    have ids := id.symm.trans (standsFor_iff.mp stands).2
    have : other = call := planned_eq planned member inPlan (Option.some.inj ids)
    rw [endpoint, old_endpoint, this, same]

/-- The key of the row of a slot: the request's, or that of the failed row. -/
theorem Takes.key (takes : Takes scan calls call r a row left) :
    row.cacheKey = r.key ∨ a ≠ .sent ∧ ∃ old ∈ calls, standsFor old scan call.plannedRequestId = true ∧
      old.status.retryable = true ∧ row.endpoint = old.endpoint ∧ row.cacheKey = old.cacheKey := by
  rcases takes.place with ⟨-, -, key, -⟩ | ⟨i, old, there, stands, retryable, endpoint, kept, -⟩
  · exact Or.inl key
  · by_cases fresh : a = .sent
    · exact Or.inl (takes.sent fresh)
    · exact Or.inr ⟨fresh, old, List.mem_of_getElem? there, stands, retryable, endpoint, kept fresh⟩

theorem Answered.snoc (answered : Answered past r) (event : Request × Answer) :
    Answered (past ++ [event]) r := by
  obtain ⟨a, success, member⟩ := answered
  exact ⟨a, success, List.mem_append_left _ member⟩

section Take
variable {cached' : List Request}

/-- An answer on the next slot. -/
structure Next (plan : List ScanPlanCall) (scan : Nat) (provider : String) (calls : List ApiCall)
    (past : List (Request × Answer)) (call : ScanPlanCall) (r : Request) (a : Answer) : Prop where
  slot : call ∈ slots plan scan provider r.endpoint
  unused : consumed calls scan call.plannedRequestId = false
  exact : call.requestKnown = true → call.cacheKey = r.key
  first : Anonymous plan scan provider r.endpoint →
    (slots plan scan provider r.endpoint)[succeeded past r.endpoint]? = some call
  ready : Anonymous plan scan provider r.endpoint → a = .hit → ∀ old ∈ calls,
    old.endpoint = r.endpoint → old.status.retryable = true → Answered past r

theorem Replayed.take_rows (planned : Planned plan scan provider)
    (replayed : Replayed plan scan provider calls cached past)
    (takes : Takes scan calls call r a row left)
    (next : Next plan scan provider calls past call r a) :
    ∀ other ∈ left, other.scanRunId = some scan ∧ ∃ call ∈ plan,
      other.plannedRequestId = some call.plannedRequestId ∧ other.endpoint = call.endpoint ∧
        (call.requestKnown = true → other.cacheKey = call.cacheKey) := by
  intro other member
  rcases (takes.mem replayed).mp member with rfl | ⟨member, -⟩
  · obtain ⟨inPlan, same⟩ := (mem_slots planned).mp next.slot
    refine ⟨takes.run, call, inPlan, takes.id, ?_, fun known => ?_⟩
    · rw [takes.endpoint planned replayed next.slot, same]
    · rcases takes.key with key | ⟨-, old, there, stands, -, -, key⟩
      · rw [key, next.exact known]
      · obtain ⟨-, other, inPlan', id, -, keyed⟩ := replayed.rows old there
        have ids := id.symm.trans (standsFor_iff.mp stands).2
        have : other = call := planned_eq planned inPlan' inPlan (Option.some.inj ids)
        subst this
        rw [key, keyed known]
  · exact replayed.rows other member

theorem Replayed.take_filled (planned : Planned plan scan provider)
    (replayed : Replayed plan scan provider calls cached past)
    (takes : Takes scan calls call r a row left)
    (next : Next plan scan provider calls past call r a) (e : String)
    (anonymous : Anonymous plan scan provider e) (j : Nat) (other : ScanPlanCall)
    (there : (slots plan scan provider e)[j]? = some other) :
    consumed left scan other.plannedRequestId = true ↔ j < succeeded (past ++ [(r, a)]) e := by
  have filled := replayed.filled e anonymous j other there
  rw [takes.consumed replayed, succeeded_snoc]
  by_cases here : r.endpoint = e
  · subst here
    have first := next.first anonymous
    split
    · rename_i own
      have : j = succeeded past r.endpoint := slots_index planned there first own
      subst this
      rw [Nat.lt_add_right_iff_pos]
      split <;> simp_all
    · rename_i different
      have apart : j ≠ succeeded past r.endpoint := by
        rintro rfl
        rw [first] at there
        exact different (congrArg _ (Option.some.inj there).symm)
      rw [filled]
      split <;> omega
  · have different : other.plannedRequestId ≠ call.plannedRequestId := by
      intro same
      obtain ⟨inPlan, endpoint⟩ := (mem_slots planned).mp next.slot
      obtain ⟨inPlan', endpoint'⟩ := (mem_slots planned).mp (List.mem_of_getElem? there)
      have : other = call := planned_eq planned inPlan' inPlan same
      rw [← endpoint, ← endpoint', this] at here
      exact here rfl
    rw [if_neg different, filled, if_neg (fun both => here both.1)]
    rfl

/-- A failed row is left only by a failure. -/
theorem Replayed.take_idle (planned : Planned plan scan provider)
    (replayed : Replayed plan scan provider calls cached past)
    (takes : Takes scan calls call r a row left)
    (next : Next plan scan provider calls past call r a) {other : ApiCall} (member : other ∈ left)
    (anonymous : Anonymous plan scan provider other.endpoint)
    (retryable : other.status.retryable = true) :
    (other.endpoint = r.endpoint ∧ other = row ∧ a.success = false) ∨
      other.endpoint ≠ r.endpoint ∧ other ∈ calls := by
  rcases (takes.mem replayed).mp member with rfl | ⟨earlier, different⟩
  · refine Or.inl ⟨takes.endpoint planned replayed next.slot, rfl, ?_⟩
    by_contra success
    rcases takes.success (by simpa using success) with status | status <;>
      rw [status] at retryable <;> cases retryable
  · refine Or.inr ⟨fun same => ?_, earlier⟩
    obtain ⟨slot, there, id⟩ := replayed.idle other earlier anonymous retryable
    rw [same, next.first (same ▸ anonymous)] at there
    cases there
    exact different id

theorem Replayed.take_named (planned : Planned plan scan provider)
    (replayed : Replayed plan scan provider calls cached past)
    (takes : Takes scan calls call r a row left)
    (next : Next plan scan provider calls past call r a) (q : Request)
    (anonymous : Anonymous plan scan provider q.endpoint)
    (answered : Answered (past ++ [(r, a)]) q) :
    ∃ other ∈ left, answers other (q.site scan provider) = true := by
  have before (answered : Answered past q) :
      ∃ other ∈ left, answers other (q.site scan provider) = true := by
    obtain ⟨other, member, holds⟩ := replayed.named q anonymous answered
    refine ⟨other, (takes.mem replayed).mpr (Or.inr ⟨member, fun id => ?_⟩), holds⟩
    have used : consumed calls scan call.plannedRequestId = true := by
      refine consumed_iff.mpr ⟨other, member, standsFor_iff.mpr ⟨(replayed.rows other member).1, id⟩, ?_⟩
      simp only [answers, decide_eq_true_eq] at holds
      rcases holds.2.2.2 with status | status <;> rw [status] <;> rfl
    rw [next.unused] at used
    cases used
  rcases answered_snoc.mp answered with earlier | ⟨rfl, success⟩
  · exact before earlier
  · have endpoint := takes.endpoint planned replayed next.slot
    rcases takes.key with key | ⟨notSent, old, there, -, retryable, same, -⟩
    · refine ⟨row, (takes.mem replayed).mpr (Or.inl rfl), ?_⟩
      simp only [answers, decide_eq_true_eq]
      exact ⟨takes.run, endpoint, key, takes.success success⟩
    · -- A hit on a failed row keeps that row's key: an earlier row answers for it.
      have hit : a = .hit := by
        cases a with
        | hit => rfl
        | sent => exact absurd rfl notSent
        | failed beforeNetwork => cases success
      exact before (next.ready anonymous hit old there (same.symm.trans endpoint) retryable)

theorem Replayed.take_truthful (replayed : Replayed plan scan provider calls cached past)
    (planned : Planned plan scan provider)
    (takes : Takes scan calls call r a row left) (caches : Caches cached r a cached')
    (next : Next plan scan provider calls past call r a) (other : ApiCall) (member : other ∈ left)
    (anonymous : Anonymous plan scan provider other.endpoint)
    (known : ⟨other.endpoint, other.cacheKey⟩ ∈ cached') :
    Answered (past ++ [(r, a)]) ⟨other.endpoint, other.cacheKey⟩ := by
  rcases caches.mem.mp known with earlier | ⟨same, success⟩
  · rcases (takes.mem replayed).mp member with rfl | ⟨there, -⟩
    · rcases takes.key with key | ⟨-, old, there, -, -, endpoint, key⟩
      · rw [key, takes.endpoint planned replayed next.slot] at earlier ⊢
        have hit := caches.fresh earlier
        exact answered_snoc.mpr (Or.inr ⟨rfl, by rw [hit]; rfl⟩)
      · rw [key, endpoint] at earlier ⊢
        exact (replayed.truthful old there (endpoint ▸ anonymous) earlier).snoc _
    · exact (replayed.truthful other there anonymous earlier).snoc _
  · exact answered_snoc.mpr (Or.inr ⟨same, success⟩)

/-- The rows after an answer on the next slot. -/
theorem Replayed.take (planned : Planned plan scan provider)
    (replayed : Replayed plan scan provider calls cached past)
    (takes : Takes scan calls call r a row left) (caches : Caches cached r a cached')
    (next : Next plan scan provider calls past call r a) :
    Replayed plan scan provider left cached' (past ++ [(r, a)]) where
  rows := replayed.take_rows planned takes next
  status := by
    intro other member
    rcases (takes.mem replayed).mp member with rfl | ⟨there, -⟩
    · cases success : a.success with
      | true => exact Or.inr (takes.success success)
      | false => exact Or.inl (takes.failure success)
    · exact replayed.status other there
  unique := takes.unique replayed
  known := by
    intro other member known used
    rw [takes.consumed replayed] at used
    split at used
    · rename_i own
      obtain ⟨inPlan, endpoint⟩ := (mem_slots planned).mp next.slot
      have : other = call := planned_eq planned member inPlan own
      subst this
      rw [endpoint, next.exact known]
      exact caches.mem.mpr (Or.inr ⟨rfl, used⟩)
    · exact caches.mem.mpr (Or.inl (replayed.known other member known used))
  filled := replayed.take_filled planned takes next
  idle := by
    intro other member anonymous retryable
    rw [succeeded_snoc]
    rcases replayed.take_idle planned takes next member anonymous retryable with
      ⟨endpoint, rfl, failure⟩ | ⟨endpoint, there⟩
    · rw [if_neg (by simp [failure]), endpoint]
      exact ⟨call, next.first (endpoint ▸ anonymous), takes.id⟩
    · rw [if_neg (fun both => endpoint both.1.symm)]
      exact replayed.idle other there anonymous retryable
  named := replayed.take_named planned takes next
  truthful := replayed.take_truthful planned takes caches next
  cached := by
    intro q answered
    rcases answered_snoc.mp answered with earlier | ⟨rfl, success⟩
    · exact caches.mem.mpr (Or.inl (replayed.cached q earlier))
    · exact caches.mem.mpr (Or.inr ⟨rfl, success⟩)

/-- The rows after a hit that an earlier row answers, when its endpoint has no
slot left. -/
theorem Replayed.repeat (replayed : Replayed plan scan provider calls cached past)
    (member : r ∈ cached)
    (full : Anonymous plan scan provider r.endpoint →
      (slots plan scan provider r.endpoint).length ≤ succeeded past r.endpoint ∧ Answered past r) :
    Replayed plan scan provider calls cached (past ++ [(r, .hit)]) where
  rows := replayed.rows
  status := replayed.status
  unique := replayed.unique
  known := replayed.known
  filled := by
    intro e anonymous j other there
    rw [replayed.filled e anonymous j other there, succeeded_snoc]
    split
    · rename_i here
      obtain ⟨rfl, -⟩ := here
      have bound := (List.getElem?_eq_some_iff.mp there).1
      have := (full anonymous).1
      omega
    · rfl
  idle := by
    intro other there anonymous retryable
    obtain ⟨slot, first, id⟩ := replayed.idle other there anonymous retryable
    rw [succeeded_snoc]
    split
    · rename_i here
      have bound := (List.getElem?_eq_some_iff.mp first).1
      have := (full (here.1 ▸ anonymous)).1
      rw [here.1] at this
      omega
    · exact ⟨slot, first, id⟩
  named := by
    intro q anonymous answered
    rcases answered_snoc.mp answered with earlier | ⟨rfl, -⟩
    · exact replayed.named q anonymous earlier
    · exact replayed.named q anonymous (full anonymous).2
  truthful := fun other there anonymous known =>
    (replayed.truthful other there anonymous known).snoc _
  cached := by
    intro q answered
    rcases answered_snoc.mp answered with earlier | ⟨rfl, -⟩
    · exact replayed.cached q earlier
    · exact member

end Take

end Rows

end RankRent.Provider
