import RankRent.Provider.Retries

/-!
# When the attempts of a scan fit its plan

A cache hit takes a slot of its own, so that the slots of an endpoint whose
requests are not known in advance are used up by repeated answers as well.
-/

namespace RankRent.Provider

section Fits
variable {plan : List ScanPlanCall} {scan : Nat} {provider : String}
  {past : List (Request × Answer)}

theorem fitsPlan_nil : FitsPlan plan scan provider past [] := by
  intro earlier r a rest split
  simp at split

theorem fitsPlan_cons {r : Request} {a : Answer} {rest : List (Request × Answer)} :
    FitsPlan plan scan provider past ((r, a) :: rest) ↔
      Fits plan scan provider past r ∧ FitsPlan plan scan provider (past ++ [(r, a)]) rest := by
  constructor
  · intro fits
    refine ⟨?_, ?_⟩
    · have first := fits [] r a rest rfl
      rwa [List.append_nil] at first
    · intro earlier q b more split
      have later := fits ((r, a) :: earlier) q b more (by rw [split, List.cons_append])
      rwa [List.append_cons] at later
  · rintro ⟨first, later⟩ earlier q b more split
    cases earlier with
    | nil =>
      cases split
      rwa [List.append_nil]
    | cons event earlier =>
      rw [List.cons_append, List.cons.injEq] at split
      obtain ⟨rfl, rest_eq⟩ := split
      rw [List.append_cons]
      exact later earlier q b more rest_eq

theorem fitsPlan_append {first second : List (Request × Answer)} :
    FitsPlan plan scan provider past (first ++ second) ↔
      FitsPlan plan scan provider past first ∧
        FitsPlan plan scan provider (past ++ first) second := by
  induction first generalizing past with
  | nil => simp [fitsPlan_nil]
  | cons event first ih =>
    obtain ⟨r, a⟩ := event
    rw [List.cons_append, fitsPlan_cons, fitsPlan_cons, ih, and_assoc, List.append_assoc,
      List.singleton_append]

theorem replay_append {x : Nat → Exchange} {n : Nat} {calls : List ApiCall}
    (first second : List (Request × Answer)) :
    replay plan scan provider x n calls (first ++ second) =
      (replay plan scan provider x n calls first).bind fun left =>
        replay plan scan provider x (n + first.length) left second := by
  induction first generalizing n calls with
  | nil => rfl
  | cons event first ih =>
    obtain ⟨r, a⟩ := event
    rw [List.cons_append, replay, replay]
    cases issue plan scan provider calls r a (x n) with
    | none => rfl
    | some left =>
      simp only [List.length_cons]
      rw [ih, Nat.add_assoc, Nat.add_comm 1]

end Fits

/-! ## One request -/

section Step
variable {plan : List ScanPlanCall} {scan : Nat} {provider : String} {calls : List ApiCall}
  {cached cached' : List Request} {past : List (Request × Answer)} {r : Request} {a : Answer}

/-- The requests of an endpoint whose requests are known are planned ones. -/
def Asked (plan : List ScanPlanCall) (scan : Nat) (provider : String) (r : Request) : Prop :=
  ∀ known ∈ slots plan scan provider r.endpoint, known.requestKnown = true →
    ∃ call ∈ slots plan scan provider r.endpoint, call.requestKnown = true ∧ call.cacheKey = r.key

/-- What a request leaves: the rows of the scan, and no failed row of an
anonymous endpoint but one of its own failure or of another endpoint. -/
structure Leaves (plan : List ScanPlanCall) (scan : Nat) (provider : String)
    (calls : List ApiCall) (cached : List Request) (past : List (Request × Answer)) (r : Request)
    (a : Answer) (left : List ApiCall) : Prop where
  replayed : Replayed plan scan provider left cached (past ++ [(r, a)])
  failed : ∀ row ∈ left, Anonymous plan scan provider row.endpoint →
    row.status.retryable = true → (row.endpoint = r.endpoint ∧ a.success = false) ∨
      row.endpoint ≠ r.endpoint ∧ row ∈ calls

theorem Replayed.leaves (planned : Planned plan scan provider)
    (replayed : Replayed plan scan provider calls cached past) (caches : Caches cached r a cached')
    {call : ScanPlanCall} (chosen : plannedCall plan calls (r.site scan provider) = some call)
    (next : Next plan scan provider calls past call r a) (x : Exchange) :
    ∃ left, issue plan scan provider calls r a x = some left ∧
      Leaves plan scan provider calls cached' past r a left := by
  obtain ⟨row, left, issued, takes⟩ := issue_taken chosen a x
  refine ⟨left, issued, replayed.take planned takes caches next, ?_⟩
  intro other member anonymous retryable
  rcases replayed.take_idle planned takes next member anonymous retryable with
    ⟨endpoint, -, failure⟩ | elsewhere
  · exact Or.inl ⟨endpoint, failure⟩
  · exact Or.inr elsewhere

/-- A request of an anonymous endpoint is issued exactly if it fits. -/
theorem issue_anonymous (planned : Planned plan scan provider)
    (replayed : Replayed plan scan provider calls cached past) (caches : Caches cached r a cached')
    (anonymous : Anonymous plan scan provider r.endpoint)
    (ready : a = .hit → ∀ old ∈ calls, old.endpoint = r.endpoint → old.status.retryable = true →
      Answered past r) (x : Exchange) :
    (Fits plan scan provider past r ∧ ∃ left, issue plan scan provider calls r a x = some left ∧
        Leaves plan scan provider calls cached' past r a left) ∨
      ¬ Fits plan scan provider past r ∧ issue plan scan provider calls r a x = none := by
  have choice := plannedCall_anonymous replayed anonymous
  cases chosen : plannedCall plan calls (r.site scan provider) with
  | some call =>
    rw [chosen] at choice
    have bound := (List.getElem?_eq_some_iff.mp choice.symm).1
    refine Or.inl ⟨fun _ => Or.inr bound, replayed.leaves planned caches chosen ?_ x⟩
    obtain ⟨slot, unused⟩ := plannedCall_some chosen
    refine ⟨slot, unused, fun known => ?_, fun _ => choice.symm, fun _ => ready⟩
    rw [anonymous call slot] at known
    cases known
  | none =>
    rw [chosen] at choice
    have full := List.getElem?_eq_none_iff.mp choice.symm
    rcases issue_unplanned chosen a x with ⟨⟨row, member, holds⟩, rfl, issued⟩ | ⟨refused, issued⟩
    · have known : r ∈ cached := by
        cases caches with
        | hit known => exact known
      simp only [answers, decide_eq_true_eq] at holds
      obtain ⟨-, endpoint, key, -⟩ := holds
      have named : (⟨row.endpoint, row.cacheKey⟩ : Request) = r := by
        rw [endpoint, key]
        rfl
      have answered : Answered past r := by
        have := replayed.truthful row member (by rw [endpoint]; exact anonymous)
        rw [named] at this
        exact this known
      have unchanged : cached' = cached := by
        cases caches with
        | hit _ => rfl
      subst unchanged
      refine Or.inl ⟨fun _ => Or.inl answered, calls, issued,
        replayed.repeat known fun _ => ⟨full, answered⟩, ?_⟩
      intro other there unknown retryable
      refine Or.inr ⟨fun same => ?_, there⟩
      obtain ⟨slot, first, -⟩ := replayed.idle other there unknown retryable
      rw [same, choice.symm] at first
      cases first
    · refine Or.inr ⟨fun fits => ?_, issued⟩
      rcases fits anonymous with answered | bound
      · exact refused ⟨replayed.named r anonymous answered,
          caches.fresh (replayed.cached r answered)⟩
      · omega

/-- A planned request of an endpoint with known requests is always issued. -/
theorem issue_known (planned : Planned plan scan provider)
    (replayed : Replayed plan scan provider calls cached past) (caches : Caches cached r a cached')
    (asked : Asked plan scan provider r) (named : ¬ Anonymous plan scan provider r.endpoint)
    (x : Exchange) :
    ∃ left, issue plan scan provider calls r a x = some left ∧
      Leaves plan scan provider calls cached' past r a left := by
  obtain ⟨known, there, isKnown⟩ : ∃ known ∈ slots plan scan provider r.endpoint,
      known.requestKnown = true := by
    by_contra none
    refine named fun call member => ?_
    by_contra isKnown
    exact none ⟨call, member, by simpa using isKnown⟩
  rcases plannedCall_known there isKnown with ⟨call, chosen, -, key⟩ | ⟨none, used⟩
  · refine replayed.leaves planned caches chosen ?_ x
    obtain ⟨slot, unused⟩ := plannedCall_some chosen
    exact ⟨slot, unused, fun _ => key, fun unknown => absurd unknown named,
      fun unknown => absurd unknown named⟩
  · obtain ⟨call, slot, isKnown, key⟩ := asked known there isKnown
    obtain ⟨inPlan, endpoint⟩ := (mem_slots planned).mp slot
    have consumed := used call slot isKnown key
    have inCache : r ∈ cached := by
      have := replayed.known call inPlan isKnown consumed
      rwa [endpoint, key] at this
    obtain rfl := caches.fresh inCache
    have unchanged : cached' = cached := by
      cases caches with
      | hit _ => rfl
    subst unchanged
    obtain ⟨row, member, stands, closed⟩ := consumed_iff.mp consumed
    have holds : answers row (r.site scan provider) = true := by
      obtain ⟨run, other, inPlan', id, row_endpoint, row_key⟩ := replayed.rows row member
      have ids := id.symm.trans (standsFor_iff.mp stands).2
      have : other = call := planned_eq planned inPlan' inPlan (Option.some.inj ids)
      subst this
      simp only [answers, decide_eq_true_eq]
      refine ⟨run, row_endpoint.trans endpoint, (row_key isKnown).trans key, ?_⟩
      rcases replayed.status row member with retryable | status
      · rw [closed] at retryable
        cases retryable
      · exact status
    rcases issue_unplanned none .hit x with ⟨-, -, issued⟩ | ⟨refused, -⟩
    · refine ⟨calls, issued, replayed.repeat inCache fun unknown => absurd unknown named, ?_⟩
      intro other there unknown retryable
      exact Or.inr ⟨fun same => named (same ▸ unknown), there⟩
    · exact absurd ⟨⟨row, member, holds⟩, rfl⟩ refused

theorem issue_step (planned : Planned plan scan provider)
    (replayed : Replayed plan scan provider calls cached past) (caches : Caches cached r a cached')
    (asked : Asked plan scan provider r)
    (ready : Anonymous plan scan provider r.endpoint → a = .hit → ∀ old ∈ calls,
      old.endpoint = r.endpoint → old.status.retryable = true → Answered past r) (x : Exchange) :
    (Fits plan scan provider past r ∧ ∃ left, issue plan scan provider calls r a x = some left ∧
        Leaves plan scan provider calls cached' past r a left) ∨
      ¬ Fits plan scan provider past r ∧ issue plan scan provider calls r a x = none := by
  by_cases anonymous : Anonymous plan scan provider r.endpoint
  · exact issue_anonymous planned replayed caches anonymous (ready anonymous) x
  · exact Or.inl ⟨fun unknown => absurd unknown anonymous,
      issue_known planned replayed caches asked anonymous x⟩

end Step

/-! ## Attempts -/

section Attempts
variable {plan : List ScanPlanCall} {scan : Nat} {provider : String}
  {cached : List Request} {requests : List Request}

/-- For every failed row of an anonymous endpoint the failed request is still to
come, and what comes before it at that endpoint was answered. -/
def Pending (plan : List ScanPlanCall) (scan : Nat) (provider : String) (rest : List Request)
    (calls : List ApiCall) (cached : List Request) (past : List (Request × Answer)) : Prop :=
  ∀ row ∈ calls, Anonymous plan scan provider row.endpoint → row.status.retryable = true →
    ∃ before f after, rest = before ++ f :: after ∧ f.endpoint = row.endpoint ∧ f ∉ cached ∧
      ∀ q ∈ before, q.endpoint = row.endpoint → Answered past q

/-- A hit at an endpoint with a failed row was answered before. -/
theorem Pending.ready {calls : List ApiCall} {past : List (Request × Answer)} {r : Request}
    {rest : List Request} (pending : Pending plan scan provider (r :: rest) calls cached past)
    (known : r ∈ cached) (anonymous : Anonymous plan scan provider r.endpoint) (old : ApiCall)
    (member : old ∈ calls) (here : old.endpoint = r.endpoint)
    (retryable : old.status.retryable = true) : Answered past r := by
  obtain ⟨before, f, after, split, -, missing, answered⟩ :=
    pending old member (here ▸ anonymous) retryable
  cases before with
  | nil =>
    cases split
    exact absurd known missing
  | cons q before =>
    rw [List.cons_append, List.cons.injEq] at split
    obtain ⟨rfl, -⟩ := split
    exact answered r List.mem_cons_self here.symm

theorem Pending.answer {calls left : List ApiCall} {past : List (Request × Answer)} {r : Request}
    {a : Answer} {rest cached' : List Request}
    (pending : Pending plan scan provider (r :: rest) calls cached past)
    (caches : Caches cached r a cached') (success : a.success = true)
    (leaves : Leaves plan scan provider calls cached' past r a left) :
    Pending plan scan provider rest left cached' (past ++ [(r, a)]) := by
  intro row member anonymous retryable
  rcases leaves.failed row member anonymous retryable with ⟨-, failure⟩ | ⟨apart, there⟩
  · rw [success] at failure
    cases failure
  · obtain ⟨before, f, after, split, endpoint, missing, answered⟩ :=
      pending row there anonymous retryable
    have other : f ≠ r := by
      rintro rfl
      exact apart endpoint.symm
    cases before with
    | nil =>
      cases split
      exact absurd rfl other
    | cons q before =>
      rw [List.cons_append, List.cons.injEq] at split
      refine ⟨before, f, after, split.2, endpoint, ?_, fun q member here => ?_⟩
      · rw [caches.mem]
        rintro (known | ⟨same, -⟩)
        · exact missing known
        · exact other same
      · exact (answered q (List.mem_cons_of_mem _ member) here).snoc _

theorem Pending.fail {calls left : List ApiCall} {past : List (Request × Answer)} {r : Request}
    {a : Answer} {done rest : List Request} (all : requests = done ++ r :: rest)
    (answered : ∀ q ∈ done, Answered past q) (missing : r ∉ cached)
    (pending : Pending plan scan provider (r :: rest) calls cached past)
    (leaves : Leaves plan scan provider calls cached past r a left) :
    Pending plan scan provider requests left cached (past ++ [(r, a)]) := by
  intro row member anonymous retryable
  rcases leaves.failed row member anonymous retryable with ⟨here, -⟩ | ⟨-, there⟩
  · exact ⟨done, r, rest, all, here.symm, missing, fun q member _ => (answered q member).snoc _⟩
  · obtain ⟨before, f, after, split, endpoint, missing, earlier⟩ :=
      pending row there anonymous retryable
    refine ⟨done ++ before, f, after, ?_, endpoint, missing, fun q member here => ?_⟩
    · rw [all, split, List.append_assoc]
    · rcases List.mem_append.mp member with member | member
      · exact (answered q member).snoc _
      · exact (earlier q member here).snoc _

/-- What an attempt comes to: all of its requests fit and are issued, or one
does not fit and is refused. -/
def Outcome (plan : List ScanPlanCall) (scan : Nat) (provider : String) (x : Nat → Exchange)
    (requests : List Request) (n : Nat) (calls : List ApiCall) (past : List (Request × Answer))
    (result : List (Request × Answer) × List Request) : Prop :=
  (FitsPlan plan scan provider past result.1 ∧
      ∃ left, replay plan scan provider x n calls result.1 = some left ∧
        Replayed plan scan provider left result.2 (past ++ result.1) ∧
        Pending plan scan provider requests left result.2 (past ++ result.1)) ∨
    ¬ FitsPlan plan scan provider past result.1 ∧
      replay plan scan provider x n calls result.1 = none

theorem Outcome.cons {x : Nat → Exchange} {n : Nat} {calls left : List ApiCall}
    {past : List (Request × Answer)} {r : Request} {a : Answer}
    {result : List (Request × Answer) × List Request} (fits : Fits plan scan provider past r)
    (issued : issue plan scan provider calls r a (x n) = some left)
    (rest : Outcome plan scan provider x requests (n + 1) left (past ++ [(r, a)]) result) :
    Outcome plan scan provider x requests n calls past ((r, a) :: result.1, result.2) := by
  have assoc : past ++ (r, a) :: result.1 = past ++ [(r, a)] ++ result.1 := List.append_cons ..
  unfold Outcome
  simp only [fitsPlan_cons, replay, issued, assoc]
  rcases rest with ⟨later, done⟩ | ⟨later, refused⟩
  · exact Or.inl ⟨⟨fits, later⟩, done⟩
  · exact Or.inr ⟨fun both => later both.2, refused⟩

theorem Outcome.refused {x : Nat → Exchange} {n : Nat} {calls : List ApiCall}
    {past events : List (Request × Answer)} {r : Request} {a : Answer} {cached : List Request}
    (unfit : ¬ Fits plan scan provider past r)
    (issued : issue plan scan provider calls r a (x n) = none) :
    Outcome plan scan provider x requests n calls past ((r, a) :: events, cached) := by
  refine Or.inr ⟨fun fits => unfit (fitsPlan_cons.mp fits).1, ?_⟩
  simp only [replay, issued]

/-- One attempt, from any of its requests on. -/
theorem attempt_outcome (planned : Planned plan scan provider)
    (asked : ∀ r ∈ requests, Asked plan scan provider r) (x : Nat → Exchange)
    (outcome : Request → Option Bool) {done rest : List Request} {n : Nat} {calls : List ApiCall}
    {past : List (Request × Answer)} (all : requests = done ++ rest)
    (replayed : Replayed plan scan provider calls cached past)
    (answered : ∀ q ∈ done, Answered past q)
    (pending : Pending plan scan provider rest calls cached past) :
    Outcome plan scan provider x requests n calls past (attempt outcome cached rest) := by
  induction rest generalizing done n calls cached past with
  | nil =>
    refine Or.inl ⟨fitsPlan_nil, calls, rfl, ?_, ?_⟩
    · rw [attempt, List.append_nil]
      exact replayed
    · intro row member anonymous retryable
      obtain ⟨before, f, after, split, -⟩ := pending row member anonymous retryable
      simp at split
  | cons r rest ih =>
    have mine : r ∈ requests := by simp [all]
    have all' : requests = (done ++ [r]) ++ rest := by simp [all]
    have later {a : Answer} (success : a.success = true) :
        ∀ q ∈ done ++ [r], Answered (past ++ [(r, a)]) q := by
      intro q member
      rcases List.mem_append.mp member with member | single
      · exact (answered q member).snoc _
      · exact answered_snoc.mpr (Or.inr ⟨List.mem_singleton.mp single, success⟩)
    rw [attempt]
    split
    · rename_i known
      rcases issue_step planned replayed (Caches.hit known) (asked r mine)
        (fun anonymous _ => pending.ready known anonymous) (x n) with
        ⟨fits, left, issued, leaves⟩ | ⟨unfit, refused⟩
      · exact Outcome.cons fits issued (ih all' leaves.replayed (later rfl)
          (pending.answer (Caches.hit known) rfl leaves))
      · exact Outcome.refused unfit refused
    · rename_i missing
      cases outcome r with
      | some beforeNetwork =>
        have caches := Caches.failed beforeNetwork missing
        rcases issue_step planned replayed caches (asked r mine) (fun _ => nofun) (x n) with
          ⟨fits, left, issued, leaves⟩ | ⟨unfit, refused⟩
        · refine Or.inl ⟨fitsPlan_cons.mpr ⟨fits, fitsPlan_nil⟩, left, ?_, leaves.replayed,
            pending.fail all answered missing leaves⟩
          simp only [replay, issued]
        · exact Outcome.refused unfit refused
      | none =>
        have caches := Caches.sent missing
        rcases issue_step planned replayed caches (asked r mine) (fun _ => nofun) (x n) with
          ⟨fits, left, issued, leaves⟩ | ⟨unfit, refused⟩
        · exact Outcome.cons fits issued (ih all' leaves.replayed (later rfl)
            (pending.answer caches rfl leaves))
        · exact Outcome.refused unfit refused

/-- All attempts, from any of them on. -/
theorem attempts_issued_iff (planned : Planned plan scan provider)
    (asked : ∀ r ∈ requests, Asked plan scan provider r) (x : Nat → Exchange)
    (outcomes : List (Request → Option Bool)) {n : Nat} {calls : List ApiCall}
    {past : List (Request × Answer)}
    (replayed : Replayed plan scan provider calls cached past)
    (pending : Pending plan scan provider requests calls cached past) :
    (replay plan scan provider x n calls (attempts requests cached outcomes)).isSome = true ↔
      FitsPlan plan scan provider past (attempts requests cached outcomes) := by
  induction outcomes generalizing n calls cached past with
  | nil => simp [attempts, replay, fitsPlan_nil]
  | cons outcome more ih =>
    rw [attempts, replay_append, fitsPlan_append]
    rcases attempt_outcome (n := n) planned asked x outcome (List.nil_append _).symm replayed
      (by simp) pending with ⟨fits, left, issued, replayed', pending'⟩ | ⟨unfit, refused⟩
    · rw [issued, Option.bind_some, ih replayed' pending']
      exact (and_iff_right fits).symm
    · rw [refused, Option.bind_none]
      constructor
      · intro some
        cases some
      · exact fun both => absurd both.1 unfit

end Attempts

/-! ## Full scans -/

section Full
variable {scan : Nat} {provider : String} {free : Bool} {keys : PlanKeys}

/-- The keyword and listings requests of a scan are those of its plan. -/
def Requested (keys : PlanKeys) (r : Request) : Prop :=
  (r.endpoint = keywordEndpoint → r.key ∈ keys.keywords) ∧
    (r.endpoint = listingsEndpoint → r.key = keys.listings)

instance : DecidablePred (Requested keys) := fun r =>
  inferInstanceAs (Decidable ((r.endpoint = keywordEndpoint → r.key ∈ keys.keywords) ∧
    (r.endpoint = listingsEndpoint → r.key = keys.listings)))

/-- No endpoint gets more requests than it has slots. -/
def WithinPlan (plan : List ScanPlanCall) (scan : Nat) (provider : String)
    (requests : List Request) : Prop :=
  ∀ r ∈ requests, requests.countP (fun q => q.endpoint = r.endpoint) ≤
    (slots plan scan provider r.endpoint).length

theorem asked_of_requested {r : Request} (requested : Requested keys r) :
    Asked (buildScanPlan scan provider .full free keys) scan provider r := by
  intro known there isKnown
  have planned : Planned (buildScanPlan scan provider .full free keys) scan provider :=
    buildScanPlan_planned .full free keys
  obtain ⟨inPlan, endpoint⟩ := (mem_slots planned).mp there
  have named : knownEndpoint r.endpoint = true := by
    rw [← endpoint, ← (buildScanPlan_known inPlan).2.2, isKnown]
  have drafted : ∃ draft ∈ drafts .full free keys, draft.endpoint = r.endpoint ∧
      draft.known = true ∧ draft.key = r.key := by
    simp only [knownEndpoint, Bool.or_eq_true, decide_eq_true_eq] at named
    rcases named with keyword | listings
    · exact ⟨⟨keywordEndpoint, r.key, if free then 0 else 0.012, true⟩,
        by simp [drafts, requested.1 keyword], keyword.symm, rfl, rfl⟩
    · exact ⟨⟨listingsEndpoint, keys.listings, if free then 0 else 0.01, true⟩,
        by simp [drafts], listings.symm, rfl, (requested.2 listings).symm⟩
  obtain ⟨draft, member, draft_endpoint, draft_known, draft_key⟩ := drafted
  obtain ⟨call, stored, call_endpoint, call_known, call_key⟩ := mem_buildScanPlan member
  exact ⟨call, (mem_slots planned).mpr ⟨stored, call_endpoint.trans draft_endpoint⟩,
    call_known.trans draft_known, call_key.trans draft_key⟩

theorem replayed_start {plan : List ScanPlanCall} (cached : List Request) :
    Replayed plan scan provider [] cached [] where
  rows := by simp
  status := by simp
  unique := List.nodup_nil
  known := by simp [consumed]
  filled := by simp [consumed, succeeded]
  idle := by simp
  named := by simp [Answered]
  truthful := by simp
  cached := by simp [Answered]

/-- The slots of a full scan's plan whose requests are not known in advance. -/
theorem full_slots :
    let count (e : String) :=
      (slots (buildScanPlan scan provider .full free keys) scan provider e).length
    count metricsEndpoint = 1 ∧ count serpEndpoint = 3 ∧ count backlinksEndpoint = 5 := by
  have length (e : String) :
      (slots (buildScanPlan scan provider .full free keys) scan provider e).length =
        ((drafts .full free keys).map CallDraft.endpoint).count e := by
    have endpoints : (buildScanPlan scan provider .full free keys).map ScanPlanCall.endpoint =
        (drafts .full free keys).map CallDraft.endpoint := by
      rw [buildScanPlan_eq]
      refine List.ext_getElem (by simp) fun i _ _ => by simp
    rw [← endpoints, List.count, List.countP_map, List.countP_eq_length_filter]
    refine congrArg List.length (List.filter_congr fun call member => ?_)
    obtain ⟨mine, ours, -⟩ := buildScanPlan_known member
    simp [mine, ours, beq_eq_decide]
  have names : keywordEndpoint ≠ metricsEndpoint ∧ keywordEndpoint ≠ serpEndpoint ∧
      keywordEndpoint ≠ backlinksEndpoint := by decide
  have keyword (e : String) (other : keywordEndpoint ≠ e) :
      ((drafts .full free keys).map CallDraft.endpoint).count e =
        [metricsEndpoint, serpEndpoint, serpEndpoint, serpEndpoint, backlinksEndpoint,
          backlinksEndpoint, backlinksEndpoint, backlinksEndpoint, backlinksEndpoint,
          listingsEndpoint].count e := by
    have none : (keys.keywords.map fun _ => keywordEndpoint).count e = 0 := by
      refine List.count_eq_zero_of_not_mem fun member => ?_
      obtain ⟨key, -, rfl⟩ := List.mem_map.mp member
      exact other rfl
    simp only [drafts, List.map_append, List.map_map, Function.comp_def, List.count_append, none]
    rw [Nat.zero_add]
    simp only [← List.count_append]
    rfl
  simp only [length, keyword _ names.1, keyword _ names.2.1, keyword _ names.2.2]
  decide

/-- The attempts of a full scan are never refused exactly if every request of
an anonymous endpoint was answered before or finds the endpoint with fewer
answers than slots. -/
theorem full_scan_never_refused_iff (x : Nat → Exchange) (cached requests : List Request)
    (outcomes : List (Request → Option Bool)) (requested : ∀ r ∈ requests, Requested keys r) :
    (replay (buildScanPlan scan provider .full free keys) scan provider x 0 []
        (attempts requests cached outcomes)).isSome = true ↔
      FitsPlan (buildScanPlan scan provider .full free keys) scan provider []
        (attempts requests cached outcomes) :=
  attempts_issued_iff (buildScanPlan_planned .full free keys)
    (fun r member => asked_of_requested (requested r member)) x outcomes (replayed_start cached)
    (by simp [Pending])

def sampleKeys : PlanKeys where
  keywords := ["k1"]
  metrics := "m0"
  serp := fun slot => s!"s{slot}"
  backlinks := fun slot => s!"b{slot}"
  listings := "l1"

def samplePlan : List ScanPlanCall := buildScanPlan 1 "sandbox" .full true sampleKeys

def sampleExchange (n : Nat) : Exchange where
  attemptToken := s!"a{n}"
  lease := none
  responseId := n
  taskId := none
  requestId := none
  day := 0
  cls := .testing
  payload := ⟨0, none, none⟩
  error := ("TimeoutError", "timed out")
  now := n

def serpRequest (key : String) : Request := ⟨serpEndpoint, key⟩

/-- Fails on one request only. -/
def failsOn (r : Request) (q : Request) : Option Bool := if q = r then some false else none

/-- Two SERP requests leave a slot for the hit of the second attempt. -/
theorem two_serps_retried :
    (replay samplePlan 1 "sandbox" sampleExchange 0 []
        (attempts [serpRequest "r1", serpRequest "r2"] []
          [failsOn (serpRequest "r2"), fun _ => none])).isSome = true ∧
      FitsPlan samplePlan 1 "sandbox" []
        (attempts [serpRequest "r1", serpRequest "r2"] []
          [failsOn (serpRequest "r2"), fun _ => none]) := by
  have issued : (replay samplePlan 1 "sandbox" sampleExchange 0 []
      (attempts [serpRequest "r1", serpRequest "r2"] []
        [failsOn (serpRequest "r2"), fun _ => none])).isSome = true := by decide +kernel
  exact ⟨issued, (full_scan_never_refused_iff sampleExchange [] _ _ (by decide +kernel)).mp issued⟩

/-- Three SERP requests within the plan: the hit of the first takes the slot of
the failed second, the second the third slot, and the third is refused. -/
theorem third_serp_refused :
    let requests := [serpRequest "r1", serpRequest "r2", serpRequest "r3"]
    (∀ r ∈ requests, Requested sampleKeys r) ∧ WithinPlan samplePlan 1 "sandbox" requests ∧
      replay samplePlan 1 "sandbox" sampleExchange 0 []
        (attempts requests [] [failsOn (serpRequest "r2"), fun _ => none]) = none := by
  refine ⟨by decide +kernel, ?_, by decide +kernel⟩
  unfold WithinPlan
  decide +kernel

end Full

end RankRent.Provider
