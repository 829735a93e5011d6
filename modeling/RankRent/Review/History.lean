import RankRent.Review.Completeness
import RankRent.Review.Versions

/-!
# Review history of one opportunity

Any sequence of `transition`, `transition_system` and `assign_owner`, one after the
other, over evidence that others change in between.
-/

namespace RankRent.Review

inductive ReviewCall
  | transition (request : ReviewTransitionRequest) (actor : ReviewActor)
  | transitionSystem (target : OpportunityState) (decision reason : String)
  | assignOwner (request : OwnershipRequest) (actor : ReviewActor)

/-- What a call finds: the evidence, and the clock at the gate and at the write. -/
structure Moment where
  evidence : ReviewEvidence
  checkedAt : DateTime
  now : DateTime

def ReviewCall.request (complete : Bool) : ReviewCall → Request
  | .transition request actor => .transition request actor complete
  | .transitionSystem target decision reason => .system target decision reason complete
  | .assignOwner request actor => .assignOwner request actor

/-- A review row, with the opportunity it was decided on and the moment. -/
structure HistoryEntry where
  row : OpportunityReview
  before : Opportunity
  moment : Moment

structure History where
  opportunity : Opportunity
  entries : List HistoryEntry

/-- What the gate reports to a call. -/
def History.complete (h : History) (opportunityId : Nat) (moment : Moment) : Bool :=
  (approvalCompleteness moment.evidence h.opportunity opportunityId moment.checkedAt).complete

def History.apply (opportunityId : Nat) (h : History) (step : ReviewCall × Moment) : History :=
  match (step.1.request (h.complete opportunityId step.2)).decide h.opportunity step.2.now with
  | .ok (new, some row) => ⟨new, h.entries ++ [⟨row, h.opportunity, step.2⟩]⟩
  | _ => h

/-! ## A written row -/

/-- Every way a call writes a row. -/
inductive Decided (loaded : Opportunity) (complete : Bool) : Opportunity → OpportunityReview → Prop
  | accepted (request : ReviewTransitionRequest) (actor : ReviewActor) (now : DateTime)
      (legal : request.targetState ∈ loaded.status.allowed)
      (human : request.targetState = .approvedForProperty ∨ request.targetState = .rejected →
        actor.role ≠ .system)
      (gate : request.targetState = .approvedForProperty → complete = true) :
      Decided loaded complete (accept loaded request actor now).1 (accept loaded request actor now).2
  | assigned {new : Opportunity} {row : OpportunityReview} (status : new.status = loaded.status)
      (approvedAt : new.approvedAt = loaded.approvedAt) (prior : row.priorState = loaded.status)
      (review : row.reviewState = loaded.status) : Decided loaded complete new row

theorem transition_decided {loaded new : Opportunity} {request : ReviewTransitionRequest}
    {actor : ReviewActor} {complete : Bool} {now : DateTime} {row : OpportunityReview}
    (passed : transition loaded request actor complete now = .ok (new, row)) :
    Decided loaded complete new row := by
  unfold transition at passed
  split at passed
  · cases passed
  · split at passed
    · cases passed
    · rename_i legal
      split at passed
      · cases passed
      · rename_i human
        split at passed
        · cases passed
        · rename_i gate
          have same : accept loaded request actor now = (new, row) := by simpa using passed
          have decided : Decided loaded complete (accept loaded request actor now).1
              (accept loaded request actor now).2 := by
            refine .accepted request actor now (by simpa using legal) ?_ ?_
            · intro target system
              exact human ⟨target, system⟩
            · intro target
              cases complete with
              | true => rfl
              | false => exact absurd ⟨target, rfl⟩ gate
          rw [same] at decided
          exact decided

theorem decide_decided {request : Request} {loaded new : Opportunity} {now : DateTime}
    {row : OpportunityReview} {complete : Bool} {call : ReviewCall}
    (is : request = call.request complete) (passed : request.decide loaded now = .ok (new, some row)) :
    Decided loaded complete new row := by
  subst is
  cases call with
  | transition request actor =>
    simp only [ReviewCall.request, Request.decide] at passed
    cases moved : transition loaded request actor complete now with
    | error e => simp [moved, Except.map] at passed
    | ok result =>
      simp only [moved, Except.map, Except.ok.injEq, Prod.mk.injEq, Option.some.injEq] at passed
      obtain ⟨rfl, rfl⟩ := passed
      exact transition_decided moved
  | transitionSystem target decision reason =>
    simp only [ReviewCall.request, Request.decide, transitionSystem] at passed
    split at passed
    · cases passed
    · split at passed
      · cases passed
      · split at passed
        · cases passed
        · split at passed
          · cases passed
          · rename_i moved
            cases passed
            exact transition_decided moved
  | assignOwner request actor =>
    simp only [ReviewCall.request, Request.decide, assignOwner] at passed
    split at passed
    · cases passed
    · cases passed
      exact .assigned rfl rfl rfl rfl

theorem apply_decided (opportunityId : Nat) (h : History) (step : ReviewCall × Moment) :
    h.apply opportunityId step = h ∨
      ∃ new row, Decided h.opportunity (h.complete opportunityId step.2) new row ∧
        h.apply opportunityId step = ⟨new, h.entries ++ [⟨row, h.opportunity, step.2⟩]⟩ := by
  unfold History.apply
  split
  · rename_i new row passed
    exact Or.inr ⟨new, row, decide_decided rfl passed, rfl⟩
  · exact Or.inl rfl

/-! ## The trace -/

/-- The rows lead from one state to the other. -/
def Chained : OpportunityState → List OpportunityReview → OpportunityState → Prop
  | s, [], t => s = t
  | s, row :: rows, t => row.priorState = s ∧ Chained row.reviewState rows t

theorem Chained.snoc {s t : OpportunityState} {rows : List OpportunityReview}
    (chained : Chained s rows t) {row : OpportunityReview} (prior : row.priorState = t) :
    Chained s (rows ++ [row]) row.reviewState := by
  induction rows generalizing s with
  | nil =>
    cases chained
    exact ⟨prior, rfl⟩
  | cons first rows ih => exact ⟨chained.1, ih chained.2⟩

/-- What one row may say. -/
structure HistoryEntry.Sound (opportunityId : Nat) (entry : HistoryEntry) : Prop where
  allowed : entry.row.reviewState ≠ entry.row.priorState →
    entry.row.reviewState ∈ entry.row.priorState.allowed
  human : entry.row.reviewState ≠ entry.row.priorState →
    entry.row.reviewState = .approvedForProperty ∨ entry.row.reviewState = .rejected →
    entry.row.reviewerRole ≠ .system
  complete : entry.row.reviewState ≠ entry.row.priorState →
    entry.row.reviewState = .approvedForProperty →
    (approvalCompleteness entry.moment.evidence entry.before opportunityId
      entry.moment.checkedAt).complete = true
  archived : entry.row.priorState = .archived → entry.row.reviewState = .archived

/-- The history is a trace of the opportunity. -/
structure Faithful (opportunityId : Nat) (start : OpportunityState) (h : History) : Prop where
  chained : Chained start (h.entries.map HistoryEntry.row) h.opportunity.status
  approvedAt : h.opportunity.approvedAt.isSome = true ↔ h.opportunity.status = .approvedForProperty
  entries : ∀ entry ∈ h.entries, entry.Sound opportunityId

theorem Decided.row {loaded new : Opportunity} {complete : Bool} {row : OpportunityReview}
    (decided : Decided loaded complete new row) :
    row.priorState = loaded.status ∧ row.reviewState = new.status := by
  cases decided with
  | accepted => exact ⟨rfl, rfl⟩
  | assigned status _ prior review => exact ⟨prior, review.trans status.symm⟩

theorem Decided.approvedAt {loaded new : Opportunity} {complete : Bool} {row : OpportunityReview}
    (decided : Decided loaded complete new row)
    (before : loaded.approvedAt.isSome = true ↔ loaded.status = .approvedForProperty) :
    new.approvedAt.isSome = true ↔ new.status = .approvedForProperty := by
  cases decided with
  | accepted request actor now legal =>
    simp only [accept]
    by_cases approved : request.targetState = .approvedForProperty
    · simp [approved]
    · by_cases was : loaded.status = .approvedForProperty
      · simp [approved, was]
      · simp only [approved, was, ↓reduceIte]
        simpa [was] using before
  | assigned status approvedAt => rw [status, approvedAt, before]

theorem Decided.sound {opportunityId : Nat} {h : History} {moment : Moment} {new : Opportunity}
    {row : OpportunityReview}
    (decided : Decided h.opportunity (h.complete opportunityId moment) new row) :
    HistoryEntry.Sound opportunityId ⟨row, h.opportunity, moment⟩ := by
  cases decided with
  | accepted request actor now legal human gate =>
    refine ⟨fun _ => legal, fun _ => human, fun _ => gate, fun archived => ?_⟩
    have none : request.targetState ∈ OpportunityState.archived.allowed := by
      rw [← (archived : h.opportunity.status = .archived)]
      exact legal
    cases none
  | assigned status _ prior review =>
    have same : row.reviewState = row.priorState := review.trans prior.symm
    exact ⟨fun differs => absurd same differs, fun differs => absurd same differs,
      fun differs => absurd same differs, fun archived => same.trans archived⟩

theorem Faithful.apply {opportunityId : Nat} {start : OpportunityState} {h : History}
    (faithful : Faithful opportunityId start h) (step : ReviewCall × Moment) :
    Faithful opportunityId start (h.apply opportunityId step) := by
  obtain same | ⟨new, row, decided, same⟩ := apply_decided opportunityId h step
  · rw [same]
    exact faithful
  · rw [same]
    obtain ⟨prior, review⟩ := decided.row
    refine ⟨?_, decided.approvedAt faithful.approvedAt, ?_⟩
    · rw [List.map_append, ← review]
      exact faithful.chained.snoc prior
    · intro entry member
      rcases List.mem_append.mp member with old | last
      · exact faithful.entries entry old
      · rw [List.mem_singleton.mp last]
        exact decided.sound

/-- From any state whose `approved_at` fits it, every sequence of calls leaves a
faithful history. -/
theorem review_history_faithful (opportunityId : Nat) (start : Opportunity)
    (canonical : start.approvedAt.isSome = true ↔ start.status = .approvedForProperty)
    (steps : List (ReviewCall × Moment)) :
    Faithful opportunityId start.status (steps.foldl (History.apply opportunityId) ⟨start, []⟩) := by
  have run (h : History) (faithful : Faithful opportunityId start.status h) :
      Faithful opportunityId start.status (steps.foldl (History.apply opportunityId) h) := by
    induction steps generalizing h with
    | nil => exact faithful
    | cons step rest ih => exact ih (h.apply opportunityId step) (faithful.apply step)
  refine run ⟨start, []⟩ ⟨rfl, canonical, ?_⟩
  intro entry member
  cases member

/-- A full scan with everything the gate asks for. -/
def fullEvidence : ReviewEvidence where
  missingDataFlags := []
  scans := [⟨0, some 7, .full, .completed, some 100, some "pass"⟩]
  scores := [⟨0, 7, 0, 100, some "complete"⟩]
  keywordDecisions := [0]
  serpSnapshots := [0]
  competitorMetrics := [0]
  providerCandidates := [0]
  plan := []
  calls := []

/-- An owner, the approval, and its withdrawal by the pipeline. -/
def reviewedRun : List (ReviewCall × Moment) :=
  [(.assignOwner ⟨"anna", "Takes the market.", none⟩ ⟨"anna", .reviewer⟩, ⟨fullEvidence, 200, 200⟩),
    (.transition ⟨.approvedForProperty, "approve", "Strong evidence.", "", [], none, some 1⟩
      ⟨"anna", .reviewer⟩, ⟨fullEvidence, 201, 201⟩),
    (.transitionSystem .needsMoreEvidence "scan_completed" "Scan needs work.",
      ⟨fullEvidence, 300, 300⟩)]

theorem reviewed_run_faithful :
    Faithful 7 .fullReview
        (reviewedRun.foldl (History.apply 7) ⟨⟨.fullReview, none, 0, none⟩, []⟩) ∧
      (reviewedRun.foldl (History.apply 7) ⟨⟨.fullReview, none, 0, none⟩, []⟩).entries.map
        (fun entry => entry.row.reviewState) = [.fullReview, .approvedForProperty, .needsMoreEvidence] := by
  refine ⟨review_history_faithful 7 ⟨.fullReview, none, 0, none⟩ (by decide) reviewedRun, ?_⟩
  decide +kernel

end RankRent.Review
