import Mathlib.Data.List.Induction
import RankRent.Library.Runs
import RankRent.Review.Decisions

/-!
# Review versions of one opportunity

Requests of any number of sessions on one opportunity at READ COMMITTED: a
request reads the row when its session loads it and writes the changed columns
by primary key when it commits.
-/

namespace RankRent.Review

inductive Request
  | transition (request : ReviewTransitionRequest) (actor : ReviewActor) (complete : Bool)
  | system (target : OpportunityState) (decision reason : String) (complete : Bool)
  | assignOwner (request : OwnershipRequest) (actor : ReviewActor)
  deriving DecidableEq

/-- The `expected_review_version` a request was submitted with. -/
def Request.expected : Request → Option Nat
  | .transition request _ _ => request.expectedReviewVersion
  | .system .. => none
  | .assignOwner request _ => request.expectedReviewVersion

def Request.decide (loaded : Opportunity) (now : DateTime) :
    Request → Except DecisionError (Opportunity × Option OpportunityReview)
  | .transition request actor complete =>
    (Review.transition loaded request actor complete now).map fun result => (result.1, some result.2)
  | .system target decision reason complete =>
    transitionSystem loaded target decision reason complete now
  | .assignOwner request actor =>
    (Review.assignOwner loaded request actor).map fun result => (result.1, some result.2)

/-- The `UPDATE` of an opportunity: the columns the session changed. -/
def Opportunity.flush (loaded new stored : Opportunity) : Opportunity where
  status := written loaded.status new.status stored.status
  ownerUserId := written loaded.ownerUserId new.ownerUserId stored.ownerUserId
  reviewVersion := written loaded.reviewVersion new.reviewVersion stored.reviewVersion
  approvedAt := written loaded.approvedAt new.approvedAt stored.approvedAt

/-- The committed rows, each with its request, and the requests that have read. -/
structure Sessions where
  stored : Opportunity
  committed : List (Request × OpportunityReview)
  reading : List (Request × Opportunity)
  deriving DecidableEq

inductive Op
  | read (request : Request)
  | commit (k : Nat) (now : DateTime)

/-- What a request leaves: nothing when it is refused or changes nothing. -/
def Sessions.write (s : Sessions) (request : Request) (loaded : Opportunity) (now : DateTime) :
    Sessions :=
  match request.decide loaded now with
  | .ok (new, some row) =>
    { s with stored := Opportunity.flush loaded new s.stored
             committed := s.committed ++ [(request, row)] }
  | .ok (_, none) | .error _ => s

def Sessions.apply (s : Sessions) : Op → Sessions
  | .read request => { s with reading := s.reading ++ [(request, s.stored)] }
  | .commit k now =>
    match s.reading[k]? with
    | none => s
    | some (request, loaded) =>
      { s.write request loaded now with reading := s.reading.eraseIdx k }

/-- The row a request is about to write, and what it read. -/
def Sessions.writes (s : Sessions) : Op → Option (Opportunity × OpportunityReview)
  | .read _ => none
  | .commit k now =>
    match s.reading[k]? with
    | none => none
    | some (request, loaded) =>
      match request.decide loaded now with
      | .ok (_, some row) => some (loaded, row)
      | .ok (_, none) | .error _ => none

/-- No other request committed between the read and the write. -/
def Current (s : Sessions) (op : Op) : Prop :=
  ∀ loaded row, s.writes op = some (loaded, row) → loaded.reviewVersion = s.stored.reviewVersion

instance (s : Sessions) (op : Op) : Decidable (Current s op) :=
  match found : s.writes op with
  | none => isTrue fun loaded row other => by rw [found] at other; cases other
  | some (loaded, row) =>
    decidable_of_iff (loaded.reviewVersion = s.stored.reviewVersion) <| by
      constructor
      · intro same loaded' row' other
        rw [found] at other
        cases other
        exact same
      · intro current
        exact current loaded row found

/-- The committed rows carry the versions after `start` one after another, up
to the opportunity's, and no expected version was accepted twice. -/
structure Monotonic (start : Nat) (s : Sessions) : Prop where
  consecutive : s.committed.map (fun entry => entry.2.reviewVersion) =
    List.range' (start + 1) s.committed.length
  last : s.stored.reviewVersion = start + s.committed.length
  fresh : (s.committed.filterMap fun entry => entry.1.expected).Nodup

/-! ## Any run -/

/-- What holds however requests overlap. -/
structure Tracked (start : Nat) (s : Sessions) : Prop where
  last : s.stored.reviewVersion =
    ((s.committed.getLast?).map fun entry => entry.2.reviewVersion).getD start
  expected : ∀ entry ∈ s.committed, ∀ e ∈ entry.1.expected, entry.2.reviewVersion = e + 1

theorem decide_versioned {request : Request} {loaded new : Opportunity} {now : DateTime}
    {row : OpportunityReview} (accepted : request.decide loaded now = .ok (new, some row)) :
    Versioned loaded request.expected new row := by
  cases request with
  | transition request actor complete =>
    simp only [Request.decide] at accepted
    cases passed : Review.transition loaded request actor complete now with
    | error e => simp [passed, Except.map] at accepted
    | ok result =>
      simp only [passed, Except.map, Except.ok.injEq, Prod.mk.injEq, Option.some.injEq] at accepted
      obtain ⟨rfl, rfl⟩ := accepted
      exact (transition_ok passed).1
  | system target decision reason complete => exact transitionSystem_some accepted
  | assignOwner request actor =>
    simp only [Request.decide] at accepted
    cases passed : Review.assignOwner loaded request actor with
    | error e => simp [passed, Except.map] at accepted
    | ok result =>
      simp only [passed, Except.map, Except.ok.injEq, Prod.mk.injEq, Option.some.injEq] at accepted
      obtain ⟨rfl, rfl⟩ := accepted
      exact (assignOwner_ok passed).1

/-- A step writes the row it announces, or changes no committed row. -/
theorem apply_cases (s : Sessions) (op : Op) :
    (s.writes op = none ∧ (s.apply op).stored = s.stored ∧ (s.apply op).committed = s.committed) ∨
      ∃ request loaded row, s.writes op = some (loaded, row) ∧
        row.reviewVersion = loaded.reviewVersion + 1 ∧
        (∀ e ∈ request.expected, row.reviewVersion = e + 1) ∧
        (s.apply op).stored.reviewVersion = row.reviewVersion ∧
        (s.apply op).committed = s.committed ++ [(request, row)] := by
  cases op with
  | read request => exact Or.inl ⟨rfl, rfl, rfl⟩
  | commit k now =>
    simp only [Sessions.writes, Sessions.apply]
    cases found : s.reading[k]? with
    | none => exact Or.inl ⟨rfl, rfl, rfl⟩
    | some entry =>
      obtain ⟨request, loaded⟩ := entry
      simp only [Sessions.write]
      cases decided : request.decide loaded now with
      | error e => exact Or.inl ⟨rfl, rfl, rfl⟩
      | ok result =>
        obtain ⟨new, written⟩ := result
        cases written with
        | none => exact Or.inl ⟨rfl, rfl, rfl⟩
        | some row =>
          have versioned := decide_versioned decided
          refine Or.inr ⟨request, loaded, row, rfl, versioned.row, ?_, ?_, rfl⟩
          · intro e member
            rw [versioned.row, versioned.expected e member]
          · have moved : new.reviewVersion ≠ loaded.reviewVersion := by
              rw [versioned.opportunity]
              omega
            simp only [Opportunity.flush, RankRent.written, moved, ↓reduceIte]
            rw [versioned.opportunity, versioned.row]

theorem Tracked.apply {start : Nat} {s : Sessions} (tracked : Tracked start s) (op : Op) :
    Tracked start (s.apply op) := by
  rcases apply_cases s op with ⟨-, stored, committed⟩ |
    ⟨request, loaded, row, -, -, expected, stored, committed⟩
  · constructor
    · rw [stored, committed]
      exact tracked.last
    · rw [committed]
      exact tracked.expected
  · constructor
    · rw [stored, committed, List.getLast?_concat]
      rfl
    · intro entry member
      rw [committed, List.mem_append, List.mem_singleton] at member
      rcases member with earlier | rfl
      · exact tracked.expected entry earlier
      · exact expected

theorem Monotonic.le {start : Nat} {s : Sessions} (monotonic : Monotonic start s)
    {entry : Request × OpportunityReview} (member : entry ∈ s.committed) :
    entry.2.reviewVersion ≤ start + s.committed.length := by
  have version : entry.2.reviewVersion ∈ s.committed.map fun entry => entry.2.reviewVersion :=
    List.mem_map_of_mem member
  rw [monotonic.consecutive, List.mem_range'] at version
  obtain ⟨i, bound, eq⟩ := version
  omega

/-- The versions stay consecutive over a step exactly if nothing was committed
between its read and its write. -/
theorem monotonic_apply_iff {start : Nat} {s : Sessions} (tracked : Tracked start s) (op : Op) :
    Monotonic start (s.apply op) ↔ Monotonic start s ∧ Current s op := by
  rcases apply_cases s op with ⟨idle, stored, committed⟩ |
    ⟨request, loaded, row, writes, next, expected, stored, committed⟩
  · have current : Current s op := by
      intro loaded row writes
      rw [idle] at writes
      cases writes
    constructor
    · rintro ⟨consecutive, last, fresh⟩
      rw [committed] at consecutive last fresh
      rw [stored] at last
      exact ⟨⟨consecutive, last, fresh⟩, current⟩
    · rintro ⟨⟨consecutive, last, fresh⟩, -⟩
      constructor
      · rw [committed]
        exact consecutive
      · rw [committed, stored]
        exact last
      · rw [committed]
        exact fresh
  · constructor
    · rintro ⟨consecutive, -, fresh⟩
      rw [committed, List.map_append, List.length_append, List.length_singleton,
        List.range'_concat, List.map_singleton] at consecutive
      obtain ⟨before, single⟩ := List.append_inj' consecutive rfl
      have version : row.reviewVersion = start + 1 + 1 * s.committed.length :=
        List.head_eq_of_cons_eq single
      have last : s.stored.reviewVersion = start + s.committed.length := by
        rw [tracked.last, ← List.getLast?_map, before, List.getLast?_range']
        split
        · simp_all
        · simp
      rw [committed, List.filterMap_append] at fresh
      refine ⟨⟨before, last, (List.nodup_append.mp fresh).1⟩, ?_⟩
      intro loaded' row' other
      rw [writes] at other
      cases other
      omega
    · rintro ⟨monotonic, current⟩
      have same := current loaded row writes
      have last := monotonic.last
      constructor
      · rw [committed, List.map_append, List.length_append, List.length_singleton,
          List.range'_concat, List.map_singleton, monotonic.consecutive]
        congr 2
        simp only
        omega
      · rw [stored, committed, List.length_append, List.length_singleton]
        omega
      · rw [committed, List.filterMap_append, List.nodup_append]
        refine ⟨monotonic.fresh, ?_, ?_⟩
        · cases given : request.expected <;> simp [given]
        · intro e earlier e' mine
          obtain ⟨entry, member, given⟩ := List.mem_filterMap.mp earlier
          have used := tracked.expected entry member e given
          have bound := monotonic.le member
          have own : row.reviewVersion = e' + 1 := by
            refine expected e' ?_
            simpa [eq_comm] using mine
          omega

/-! ## Whole runs -/

/-- An opportunity with no review rows and no request under way. -/
structure Sessions.Fresh (s : Sessions) : Prop where
  committed : s.committed = []
  reading : s.reading = []

theorem Sessions.Fresh.tracked {s : Sessions} (fresh : s.Fresh) :
    Tracked s.stored.reviewVersion s where
  last := by simp [fresh.committed]
  expected := by simp [fresh.committed]

theorem Sessions.Fresh.monotonic {s : Sessions} (fresh : s.Fresh) :
    Monotonic s.stored.reviewVersion s where
  consecutive := by simp [fresh.committed]
  last := by simp [fresh.committed]
  fresh := by simp [fresh.committed]

/-- However requests overlap, the versions are consecutive and no expected
version is accepted twice exactly if every request that writes finds the
version it read. -/
theorem review_versions_monotonic_iff {start : Sessions} (fresh : start.Fresh) (ops : List Op) :
    Monotonic start.stored.reviewVersion (ops.foldl Sessions.apply start) ↔
      Runs.Allowed Current Sessions.apply start ops := by
  have tracked (ops : List Op) :
      Tracked start.stored.reviewVersion (ops.foldl Sessions.apply start) := by
    induction ops using List.reverseRecOn with
    | nil => exact fresh.tracked
    | append_singleton ops op ih =>
      rw [List.foldl_append]
      exact ih.apply op
  induction ops using List.reverseRecOn with
  | nil => exact iff_of_true fresh.monotonic trivial
  | append_singleton ops op ih =>
    rw [List.foldl_append, List.foldl_cons, List.foldl_nil, monotonic_apply_iff (tracked ops),
      Runs.allowed_snoc]
    exact and_congr_left' ih

/-- An opportunity under review that nobody has decided on. -/
def undecided : Sessions := ⟨⟨.preliminaryReview, none, 0, none⟩, [], []⟩

def approveFull (reviewer : String) : Request :=
  .transition ⟨.fullScanApproved, "approve", "Evidence is complete.", "", [], none, some 0⟩
    ⟨reviewer, .reviewer⟩ true

def rejectIt (reviewer : String) : Request :=
  .transition ⟨.rejected, "reject", "Demand is too low.", "", [], none, some 0⟩
    ⟨reviewer, .reviewer⟩ true

/-- The second reader comes after the first commit and is refused. -/
theorem stale_decision_refused :
    Monotonic 0 ([Op.read (approveFull "ann"), .commit 0 1, .read (rejectIt "bob"),
      .commit 0 2].foldl Sessions.apply undecided) :=
  have fresh : undecided.Fresh := ⟨rfl, rfl⟩
  (review_versions_monotonic_iff fresh [.read (approveFull "ann"), .commit 0 1,
    .read (rejectIt "bob"), .commit 0 2]).mpr (by decide +kernel)

/-- Two reviewers read version 0 and both commit a decision expecting it. -/
theorem both_decisions_committed :
    ¬ ∀ (start : Sessions), start.Fresh → ∀ ops : List Op,
      Monotonic start.stored.reviewVersion (ops.foldl Sessions.apply start) := by
  intro claimed
  have monotonic := claimed undecided ⟨rfl, rfl⟩
    [.read (approveFull "ann"), .read (rejectIt "bob"), .commit 0 1, .commit 0 2]
  have consecutive := monotonic.consecutive
  revert consecutive
  decide +kernel

end RankRent.Review
