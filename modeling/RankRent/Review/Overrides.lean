import Mathlib.Data.List.Sort
import RankRent.Library.PyFloat
import RankRent.Leads.Commits
import RankRent.Review.EvidenceValues

/-!
# Evidence overrides

`apply_override`, `reverse_override`, `list_overrides` and `_active_override` of
`opportunity_review/services.py` over the rows of `evidence_overrides`. A row is
never changed, so what is active is read from the log.
-/

namespace RankRent.Review
open Checks
open Leads (nextId nextId_fresh)

inductive OverrideAction
  | apply | revert
  deriving DecidableEq, Repr

/-- A row of `evidence_overrides`. -/
structure EvidenceOverride where
  id : Nat
  opportunityId : Nat
  overrideKind : EvidenceOverrideKind
  targetRecordId : Nat
  fieldName : String
  action : OverrideAction
  originalValue : PyJson
  newValue : PyJson
  actorUserId : String
  actorRole : ReviewRole
  reason : String
  scoreImpact : PyFloat
  scoreImpactExplanation : String
  reversesOverrideId : Option Nat := none

structure EvidenceOverrideRequest where
  overrideKind : EvidenceOverrideKind
  targetRecordId : Nat
  fieldName : String
  newValue : PyJson
  expectedOriginalValue : PyJson := .null
  reason : String
  scoreImpact : PyFloat
  scoreImpactExplanation : String

structure EvidenceOverrideReversalRequest where
  reason : String
  scoreImpact : PyFloat
  scoreImpactExplanation : String

def EvidenceOverride.key (row : EvidenceOverride) : OverrideKey :=
  ⟨row.overrideKind, row.targetRecordId, row.fieldName⟩

def EvidenceOverrideRequest.key (request : EvidenceOverrideRequest) : OverrideKey :=
  ⟨request.overrideKind, request.targetRecordId, request.fieldName⟩

/-- The first row that reverses an override. -/
def reversalOf (rows : List EvidenceOverride) (overrideId : Nat) : Option EvidenceOverride :=
  rows.find? fun row => row.reversesOverrideId = some overrideId

/-- `_active_override`: the newest application of a key without a reversal. -/
def activeOverride (rows : List EvidenceOverride) (opportunityId : Nat) (key : OverrideKey) :
    Option EvidenceOverride :=
  let candidates := (rows.filter fun row =>
    row.opportunityId = opportunityId && row.key = key && row.action = .apply).insertionSort
      fun a b => b.id ≤ a.id
  candidates.find? fun candidate => (reversalOf rows candidate.id).isNone

/-- `list_overrides`: each row with its `active`. -/
def listOverrides (rows : List EvidenceOverride) (opportunityId : Nat) :
    List (EvidenceOverride × Bool) :=
  let own := (rows.filter fun row => row.opportunityId = opportunityId).insertionSort
    fun a b => a.id ≤ b.id
  let reversedIds := own.filterMap EvidenceOverride.reversesOverrideId
  own.map fun row => (row, row.action = .apply && row.id ∉ reversedIds)

/-- The row `apply_override` adds. -/
def EvidenceOverrideRequest.row (request : EvidenceOverrideRequest) (id opportunityId : Nat)
    (original : PyJson) (actor : ReviewActor) : EvidenceOverride where
  id := id
  opportunityId := opportunityId
  overrideKind := request.overrideKind
  targetRecordId := request.targetRecordId
  fieldName := request.fieldName
  action := .apply
  originalValue := original
  newValue := request.newValue
  actorUserId := actor.actorId
  actorRole := actor.role
  reason := request.reason
  scoreImpact := request.scoreImpact
  scoreImpactExplanation := request.scoreImpactExplanation

/-- `request.expected_original_value is not None and … != original` does not hold. -/
def EvidenceOverrideRequest.expects (request : EvidenceOverrideRequest) (original : PyJson) : Bool :=
  match request.expectedOriginalValue with
  | .null => true
  | expected => PyJson.equal expected original

/-- `apply_override`. -/
def applyOverride (e : EvidenceTables) (rows : List EvidenceOverride) (opportunityId : Nat)
    (request : EvidenceOverrideRequest) (actor : ReviewActor) :
    Except OpportunityReviewError (List EvidenceOverride) := do
  let _ ← e.opportunity opportunityId
  let original ← e.originalValue opportunityId request.key
  require (request.expects original) ⟨"evidence_override_original_mismatch",
    [("expected", request.expectedOriginalValue), ("actual", original)]⟩
  require (¬PyJson.equal original request.newValue) ⟨"evidence_override_has_no_effect", []⟩
  match activeOverride rows opportunityId request.key with
  | some active => .error ⟨"active_evidence_override_exists", [("override_id", .num active.id)]⟩
  | none =>
    .ok (rows ++ [request.row (nextId EvidenceOverride.id rows) opportunityId original actor])

/-- The row `reverse_override` adds. -/
def EvidenceOverride.reversal (original : EvidenceOverride) (id opportunityId : Nat)
    (request : EvidenceOverrideReversalRequest) (actor : ReviewActor) : EvidenceOverride where
  id := id
  opportunityId := opportunityId
  overrideKind := original.overrideKind
  targetRecordId := original.targetRecordId
  fieldName := original.fieldName
  action := .revert
  originalValue := original.newValue
  newValue := original.originalValue
  actorUserId := actor.actorId
  actorRole := actor.role
  reason := request.reason
  scoreImpact := request.scoreImpact
  scoreImpactExplanation := request.scoreImpactExplanation
  reversesOverrideId := some original.id

/-- `reverse_override`. -/
def reverseOverride (rows : List EvidenceOverride) (opportunityId overrideId : Nat)
    (request : EvidenceOverrideReversalRequest) (actor : ReviewActor) :
    Except OpportunityReviewError (List EvidenceOverride) := do
  let original ← found (Table.get EvidenceOverride.id rows overrideId) ⟨"evidence_override_not_found", []⟩
  require (original.opportunityId = opportunityId ∧ original.action = .apply)
    ⟨"evidence_override_not_found", []⟩
  match reversalOf rows overrideId with
  | some reversed =>
    .error ⟨"evidence_override_already_reversed", [("reversal_id", .num reversed.id)]⟩
  | none =>
    .ok (rows ++ [original.reversal (nextId EvidenceOverride.id rows) opportunityId request actor])

/-- A request to the service. -/
inductive OverrideCall
  | apply (opportunityId : Nat) (request : EvidenceOverrideRequest) (actor : ReviewActor)
  | reverse (opportunityId overrideId : Nat) (request : EvidenceOverrideReversalRequest)
      (actor : ReviewActor)

def OverrideCall.perform (e : EvidenceTables) (rows : List EvidenceOverride) :
    OverrideCall → Except OpportunityReviewError (List EvidenceOverride)
  | .apply opportunityId request actor => applyOverride e rows opportunityId request actor
  | .reverse opportunityId overrideId request actor =>
    reverseOverride rows opportunityId overrideId request actor

/-- A rejected request adds no row. -/
def serveOverride (e : EvidenceTables) (rows : List EvidenceOverride) (call : OverrideCall) :
    List EvidenceOverride :=
  match call.perform e rows with
  | .ok after => after
  | .error _ => rows

/-! ## What the log says is active -/

/-- An application without a reversal. -/
def Active (rows : List EvidenceOverride) (row : EvidenceOverride) : Prop :=
  row.action = .apply ∧ ∀ other ∈ rows, other.reversesOverrideId ≠ some row.id

/-- `row` takes `applied` back. -/
structure Undoes (row applied : EvidenceOverride) : Prop where
  applied_action : applied.action = .apply
  action : row.action = .revert
  opportunity : row.opportunityId = applied.opportunityId
  key : row.key = applied.key
  original : row.originalValue = applied.newValue
  new : row.newValue = applied.originalValue

/-- The invariant of the log under the evidence `e`. -/
structure OverrideLog (e : EvidenceTables) (rows : List EvidenceOverride) : Prop where
  ids : (rows.map EvidenceOverride.id).Nodup
  undoes : ∀ row ∈ rows, ∀ overrideId, row.reversesOverrideId = some overrideId →
    ∃ applied ∈ rows, applied.id = overrideId ∧ Undoes row applied
  once : ∀ a ∈ rows, ∀ b ∈ rows, a.reversesOverrideId.isSome → a.reversesOverrideId = b.reversesOverrideId →
    a = b
  single : ∀ a ∈ rows, ∀ b ∈ rows, Active rows a → Active rows b →
    a.opportunityId = b.opportunityId → a.key = b.key → a = b
  grounded : ∀ row ∈ rows, row.action = .apply → (e.opportunity row.opportunityId).isOk ∧
    e.originalValue row.opportunityId row.key = .ok row.originalValue

section Log
variable {e : EvidenceTables} {rows after : List EvidenceOverride} {row : EvidenceOverride}
  {opportunityId : Nat} {key : OverrideKey}

theorem reversalOf_none {overrideId : Nat} :
    reversalOf rows overrideId = none ↔ ∀ row ∈ rows, row.reversesOverrideId ≠ some overrideId := by
  simp [reversalOf]

theorem activeOverride_mem (found : activeOverride rows opportunityId key = some row) :
    row ∈ rows ∧ row.opportunityId = opportunityId ∧ row.key = key ∧ Active rows row := by
  rw [activeOverride] at found
  have member := List.mem_of_find?_eq_some found
  have open_ := List.find?_some found
  rw [List.mem_insertionSort, List.mem_filter] at member
  simp only [Bool.and_eq_true, decide_eq_true_eq] at member
  rw [Option.isNone_iff_eq_none, reversalOf_none] at open_
  obtain ⟨inside, ⟨owner, same⟩, applied⟩ := member
  exact ⟨inside, owner, same, applied, open_⟩

theorem activeOverride_none :
    activeOverride rows opportunityId key = none ↔
      ∀ row ∈ rows, row.opportunityId = opportunityId → row.key = key → ¬Active rows row := by
  simp only [activeOverride, List.find?_eq_none, List.mem_insertionSort, List.mem_filter,
    Bool.and_eq_true, decide_eq_true_eq, Option.isNone_iff_eq_none, reversalOf_none, Active]
  constructor
  · rintro none row member owner same ⟨applied, open_⟩
    exact none row ⟨member, ⟨owner, same⟩, applied⟩ open_
  · rintro none row ⟨member, ⟨owner, same⟩, applied⟩ open_
    exact none row member owner same ⟨applied, open_⟩

theorem OverrideLog.activeOverride_iff (log : OverrideLog e rows) :
    activeOverride rows opportunityId key = some row ↔
      row ∈ rows ∧ row.opportunityId = opportunityId ∧ row.key = key ∧ Active rows row := by
  constructor
  · exact activeOverride_mem
  · rintro ⟨member, owner, same, active⟩
    cases found : activeOverride rows opportunityId key with
    | none => exact absurd active (activeOverride_none.mp found row member owner same)
    | some first =>
      obtain ⟨inside, owns, one, first_active⟩ := activeOverride_mem found
      rw [log.single first inside row member first_active active (owns.trans owner.symm)
        (one.trans same.symm)]

/-- A reversal belongs to the opportunity of what it reverses, so the rows of one
opportunity show which of them are reversed. -/
theorem OverrideLog.listed_iff (log : OverrideLog e rows) :
    (row, true) ∈ listOverrides rows opportunityId ↔
      row ∈ rows ∧ row.opportunityId = opportunityId ∧ Active rows row := by
  simp only [listOverrides, List.mem_map, List.mem_insertionSort, List.mem_filter, Prod.mk.injEq,
    Bool.and_eq_true, decide_eq_true_eq, List.mem_filterMap, Active]
  constructor
  · rintro ⟨listed, ⟨member, owner⟩, rfl, applied, kept⟩
    refine ⟨member, owner, applied, fun other inside reverses => kept ⟨other, ⟨inside, ?_⟩, reverses⟩⟩
    obtain ⟨undone, there, same, undoes⟩ := log.undoes other inside _ reverses
    rw [undoes.opportunity, Table.get_inj log.ids there member same, owner]
  · rintro ⟨member, owner, applied, open_⟩
    refine ⟨row, ⟨member, owner⟩, rfl, applied, ?_⟩
    rintro ⟨other, ⟨inside, -⟩, reverses⟩
    exact open_ other inside reverses

theorem OverrideLog.listed_active (log : OverrideLog e rows) :
    (row, true) ∈ listOverrides rows opportunityId ↔
      ∃ key, activeOverride rows opportunityId key = some row := by
  rw [log.listed_iff]
  simp only [log.activeOverride_iff]
  constructor
  · rintro ⟨member, owner, active⟩
    exact ⟨row.key, member, owner, rfl, active⟩
  · rintro ⟨-, member, owner, -, active⟩
    exact ⟨member, owner, active⟩

/-! ## One call -/

theorem applyOverride_ok {request : EvidenceOverrideRequest} {actor : ReviewActor} :
    applyOverride e rows opportunityId request actor = .ok after ↔
      ∃ original, (e.opportunity opportunityId).isOk ∧
        e.originalValue opportunityId request.key = .ok original ∧ request.expects original ∧
        PyJson.equal original request.newValue = false ∧
        activeOverride rows opportunityId request.key = none ∧
        after = rows ++ [request.row (nextId EvidenceOverride.id rows) opportunityId original actor] := by
  simp only [applyOverride, bind_ok, require_ok]
  constructor
  · rintro ⟨opportunity, there, original, value, -, expected, -, differs, added⟩
    cases active : activeOverride rows opportunityId request.key with
    | some row =>
      rw [active] at added
      cases added
    | none =>
      rw [active] at added
      cases added
      exact ⟨original, by rw [there]; rfl, value, expected, by simpa using differs, rfl, rfl⟩
  · rintro ⟨original, there, value, expected, differs, none, rfl⟩
    obtain ⟨opportunity, there⟩ := of_isOk there
    refine ⟨opportunity, there, original, value, (), expected, (), by simp [differs], ?_⟩
    rw [none]

theorem reverseOverride_ok {overrideId : Nat} {request : EvidenceOverrideReversalRequest}
    {actor : ReviewActor}
    (done : reverseOverride rows opportunityId overrideId request actor = .ok after) :
    ∃ original ∈ rows, original.id = overrideId ∧ original.opportunityId = opportunityId ∧
      Active rows original ∧
      after = rows ++ [original.reversal (nextId EvidenceOverride.id rows) opportunityId request actor] := by
  simp only [reverseOverride, bind_ok, found_ok, require_ok] at done
  obtain ⟨original, there, -, ⟨owner, applied⟩, added⟩ := done
  have id := Table.get_key there
  cases reversal : reversalOf rows overrideId with
  | some row =>
    rw [reversal] at added
    cases added
  | none =>
    rw [reversal] at added
    cases added
    refine ⟨original, Table.get_mem there, id, owner, ⟨applied, ?_⟩, rfl⟩
    rw [id]
    exact reversalOf_none.mp reversal

theorem active_snoc {new : EvidenceOverride} :
    Active (rows ++ [new]) row ↔ Active rows row ∧ new.reversesOverrideId ≠ some row.id := by
  simp [Active, or_imp, forall_and, and_assoc]

/-- The row of a log that is added last reverses nothing or something of the log. -/
theorem OverrideLog.unreversed (log : OverrideLog e rows) :
    ∀ row ∈ rows, row.reversesOverrideId ≠ some (nextId EvidenceOverride.id rows) := by
  intro row member reverses
  obtain ⟨applied, inside, same, -⟩ := log.undoes row member _ reverses
  have := nextId_fresh EvidenceOverride.id rows applied inside
  omega

theorem fresh_ids (log : OverrideLog e rows) {new : EvidenceOverride}
    (id : new.id = nextId EvidenceOverride.id rows) :
    ((rows ++ [new]).map EvidenceOverride.id).Nodup := by
  apply Table.keys_snoc log.ids
  rw [id, List.mem_map]
  rintro ⟨row, member, same⟩
  have := nextId_fresh EvidenceOverride.id rows row member
  omega

theorem OverrideLog.applied (log : OverrideLog e rows) {request : EvidenceOverrideRequest}
    {actor : ReviewActor} (done : applyOverride e rows opportunityId request actor = .ok after) :
    OverrideLog e after := by
  obtain ⟨original, there, value, -, -, none, rfl⟩ := applyOverride_ok.mp done
  rw [activeOverride_none] at none
  constructor
  · exact fresh_ids log rfl
  · intro row member overrideId reverses
    rw [List.mem_append, List.mem_singleton] at member
    obtain member | rfl := member
    · obtain ⟨applied, inside, same, undoes⟩ := log.undoes row member overrideId reverses
      exact ⟨applied, List.mem_append_left _ inside, same, undoes⟩
    · cases reverses
  · intro a inside b among reverses same
    rw [List.mem_append, List.mem_singleton] at inside among
    obtain inside | rfl := inside
    · obtain among | rfl := among
      · exact log.once a inside b among reverses same
      · rw [same] at reverses
        cases reverses
    · cases reverses
  · intro a inside b among first second owner same
    rw [active_snoc] at first second
    rw [List.mem_append, List.mem_singleton] at inside among
    obtain inside | rfl := inside
    · obtain among | rfl := among
      · exact log.single a inside b among first.1 second.1 owner same
      · exact absurd first.1 (none a inside owner same)
    · obtain among | rfl := among
      · exact absurd second.1 (none b among owner.symm same.symm)
      · rfl
  · intro row member applied
    rw [List.mem_append, List.mem_singleton] at member
    obtain member | rfl := member
    · exact log.grounded row member applied
    · exact ⟨there, value⟩

theorem OverrideLog.reversed (log : OverrideLog e rows) {overrideId : Nat}
    {request : EvidenceOverrideReversalRequest} {actor : ReviewActor}
    (done : reverseOverride rows opportunityId overrideId request actor = .ok after) :
    OverrideLog e after := by
  obtain ⟨original, there, rfl, rfl, active, rfl⟩ := reverseOverride_ok done
  constructor
  · exact fresh_ids log rfl
  · intro row member overrideId reverses
    rw [List.mem_append, List.mem_singleton] at member
    obtain member | rfl := member
    · obtain ⟨applied, inside, same, undoes⟩ := log.undoes row member overrideId reverses
      exact ⟨applied, List.mem_append_left _ inside, same, undoes⟩
    · cases reverses
      exact ⟨original, List.mem_append_left _ there, rfl, active.1, rfl, rfl, rfl, rfl, rfl⟩
  · intro a inside b among reverses same
    rw [List.mem_append, List.mem_singleton] at inside among
    obtain inside | rfl := inside
    · obtain among | rfl := among
      · exact log.once a inside b among reverses same
      · exact absurd same (active.2 a inside)
    · obtain among | rfl := among
      · exact absurd same.symm (active.2 b among)
      · rfl
  · intro a inside b among first second owner same
    rw [active_snoc] at first second
    rw [List.mem_append, List.mem_singleton] at inside among
    obtain inside | rfl := inside
    · obtain among | rfl := among
      · exact log.single a inside b among first.1 second.1 owner same
      · cases second.1.1
    · cases first.1.1
  · intro row member applied
    rw [List.mem_append, List.mem_singleton] at member
    obtain member | rfl := member
    · exact log.grounded row member applied
    · cases applied

theorem OverrideLog.serve (log : OverrideLog e rows) (call : OverrideCall) :
    OverrideLog e (serveOverride e rows call) := by
  rw [serveOverride]
  cases served : call.perform e rows with
  | error raised => exact log
  | ok after =>
    cases call with
    | apply opportunityId request actor => exact log.applied served
    | reverse opportunityId overrideId request actor => exact log.reversed served

theorem OverrideLog.run (log : OverrideLog e rows) (calls : List OverrideCall) :
    OverrideLog e (calls.foldl (serveOverride e) rows) := by
  induction calls generalizing rows with
  | nil => exact log
  | cons call calls ih => exact ih (log.serve call)

theorem OverrideLog.empty (e : EvidenceTables) : OverrideLog e [] := by
  constructor <;> simp

/-- The key of a reversed application is free again. -/
theorem OverrideLog.free_after (log : OverrideLog e rows) {overrideId : Nat}
    {request : EvidenceOverrideReversalRequest} {actor : ReviewActor}
    (done : reverseOverride rows opportunityId overrideId request actor = .ok after) :
    ∃ original ∈ rows, original.id = overrideId ∧ (e.opportunity opportunityId).isOk ∧
      e.originalValue opportunityId original.key = .ok original.originalValue ∧
      activeOverride after opportunityId original.key = none := by
  obtain ⟨original, there, rfl, rfl, active, rfl⟩ := reverseOverride_ok done
  obtain ⟨opportunity, value⟩ := log.grounded original there active.1
  refine ⟨original, there, rfl, opportunity, value, activeOverride_none.mpr ?_⟩
  intro row member owner same open_
  rw [List.mem_append, List.mem_singleton] at member
  rw [active_snoc] at open_
  obtain member | rfl := member
  · have one := log.single row member original there open_.1 active owner same
    subst one
    exact open_.2 rfl
  · cases open_.1.1

end Log

/-! ## Every run -/

/-- The laws of the overrides in one state: one active application of a key, each
reversed at most once and by its exchange, the two readings of the log agree, and
a reversed key takes every new value that differs from its evidence, of a request
that is `admissible` for it. -/
structure OverridesSound (e : EvidenceTables) (rows : List EvidenceOverride)
    (admissible : EvidenceOverrideRequest → PyJson → Prop) : Prop where
  one_active : ∀ a ∈ rows, ∀ b ∈ rows, Active rows a → Active rows b →
    a.opportunityId = b.opportunityId → a.key = b.key → a = b
  undone : ∀ applied ∈ rows, ∀ a ∈ rows, a.reversesOverrideId = some applied.id → Undoes a applied
  undone_once : ∀ applied ∈ rows, ∀ a ∈ rows, ∀ b ∈ rows, a.reversesOverrideId = some applied.id →
    b.reversesOverrideId = some applied.id → a = b
  listed : ∀ opportunityId row, (row, true) ∈ listOverrides rows opportunityId ↔
    ∃ key, activeOverride rows opportunityId key = some row
  reopened : ∀ opportunityId overrideId reversal actor after,
    reverseOverride rows opportunityId overrideId reversal actor = .ok after →
    ∃ original ∈ rows, original.id = overrideId ∧
      ∀ request applicant, EvidenceOverrideRequest.key request = original.key →
      ∃ value, e.originalValue opportunityId request.key = .ok value ∧
        (PyJson.equal value request.newValue = false → admissible request value →
          (applyOverride e after opportunityId request applicant).isOk)

/-- In every run of requests, with a request admissible when the original value it
expects, if any, is the evidence. -/
theorem overrides_sound (e : EvidenceTables) (calls : List OverrideCall) :
    OverridesSound e (calls.foldl (serveOverride e) []) fun request value => request.expects value := by
  have log := (OverrideLog.empty e).run calls
  constructor
  · exact log.single
  · intro applied there a inside reverses
    obtain ⟨other, found, same, undoes⟩ := log.undoes a inside _ reverses
    rwa [Table.get_inj log.ids found there same] at undoes
  · intro applied there a inside b among first second
    exact log.once a inside b among (by rw [first]; rfl) (first.trans second.symm)
  · exact fun _ _ => log.listed_active
  · intro opportunityId overrideId reversal actor after done
    obtain ⟨original, there, id, opportunity, value, free⟩ := log.free_after done
    refine ⟨original, there, id, fun request applicant same => ⟨original.originalValue, ?_, ?_⟩⟩
    · rw [same]
      exact value
    · intro differs expected
      rw [← same] at value free
      rw [applyOverride_ok.mpr ⟨_, opportunity, value, expected, differs, free, rfl⟩]
      rfl

/-- A classified search result of one opportunity. -/
def classifiedResult : EvidenceTables where
  opportunities := [⟨1, 1⟩]
  serpSnapshots := [⟨1, some 1⟩]
  serpResults := [⟨7, 1, "local_business"⟩]
  providerCandidates := []
  markets := []
  scanRuns := []

/-- A change of the class of the result. -/
def reclassify (newValue : String) (expected : PyJson) : EvidenceOverrideRequest where
  overrideKind := .serpClassification
  targetRecordId := 7
  fieldName := "classification"
  newValue := .str newValue
  expectedOriginalValue := expected
  reason := "seen in the results"
  scoreImpact := .finite 0
  scoreImpactExplanation := "no effect"

def classReviewer : ReviewActor := ⟨"reviewer", .reviewer⟩

/-- A request that expects another original value is refused, though the key is
free and its value differs from the evidence. -/
theorem stale_expectation_refused :
    ¬OverridesSound classifiedResult
      ([.apply 1 (reclassify "directory" .null) classReviewer].foldl (serveOverride classifiedResult) [])
      fun _ _ => True := by
  intro sound
  obtain ⟨original, member, -, accepts⟩ := sound.reopened 1 1 ⟨"was right", .finite 0, "no effect"⟩
    classReviewer _ rfl
  cases member with
  | tail _ rest => cases rest
  | head =>
    obtain ⟨value, found, accepted⟩ := accepts (reclassify "forum" (.str "directory")) classReviewer rfl
    cases found
    have taken := accepted rfl trivial
    cases taken

end RankRent.Review
