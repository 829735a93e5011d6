import RankRent.Properties.Rows
import RankRent.Leads.Commits

/-!
# Provider assignments

`create_assignment`, `transition` and `replace_assignment` of
`lead_routing/services.py`. A failed request is rolled back, so an operation
gives the table only where it succeeds.
-/

namespace RankRent.Properties
open Leads (ProviderAssignmentStatus nextId nextId_fresh)
open Checks

/-- `ProviderAssignmentStatus.value`. -/
def statusValue : ProviderAssignmentStatus → String
  | .candidate => "candidate"
  | .pilot => "pilot"
  | .active => "active"
  | .paused => "paused"
  | .terminated => "terminated"
  | .replaced => "replaced"

/-- `_ALLOWED_TRANSITIONS`. -/
def allowedTransitions : ProviderAssignmentStatus → List ProviderAssignmentStatus
  | .candidate => [.pilot, .terminated]
  | .pilot => [.active, .paused, .terminated]
  | .active => [.paused, .terminated, .replaced]
  | .paused => [.active, .terminated, .replaced]
  | .terminated => []
  | .replaced => []

/-- The two statuses that end an assignment. -/
def terminalStatus : ProviderAssignmentStatus → Bool
  | .terminated | .replaced => true
  | _ => false

/-- The keywords of `create_assignment`. -/
structure AssignmentInput where
  propertyId : String
  publicBusinessName : String
  providerCandidateId : Option Nat := none
  destinationPhone : Option String := none
  destinationEmail : Option String := none
  coverage : Option PyJson := none
  responseExpectationMinutes : Option Nat := none
  leadAcceptanceRequired : Bool := true

/-- The row `create_assignment` adds. -/
def AssignmentInput.row (input : AssignmentInput) (id : Nat) : ProviderAssignment where
  id := id
  propertyId := input.propertyId
  providerCandidateId := input.providerCandidateId
  publicBusinessName := input.publicBusinessName
  destinationPhone := input.destinationPhone
  destinationEmail := input.destinationEmail
  coverage := input.coverage.getD (.obj [])
  responseExpectationMinutes := input.responseExpectationMinutes
  leadAcceptanceRequired := input.leadAcceptanceRequired

/-- `create_assignment`. -/
def createAssignment (profiles : List RoutingProfile) (assignments : List ProviderAssignment)
    (input : AssignmentInput) : Except String (List ProviderAssignment) := do
  require (input.destinationPhone.isSome ∨ input.destinationEmail.isSome)
    "assignment_requires_destination"
  require (profiles.any fun profile => profile.propertyId = input.propertyId)
    "routing_profile_not_found"
  return assignments ++ [input.row (nextId ProviderAssignment.id assignments)]

/-- The columns an allowed transition writes. -/
def ProviderAssignment.moved (target : ProviderAssignmentStatus) (reason : Option String)
    (timestamp : DateTime) (row : ProviderAssignment) : ProviderAssignment :=
  { row with
    status := target
    activeFrom := if target = .active then row.activeFrom.or (some timestamp) else row.activeFrom
    agreementStartedAt :=
      if target = .active then row.agreementStartedAt.or (some timestamp) else row.agreementStartedAt
    terminationReason := if terminalStatus target then reason else row.terminationReason
    activeUntil := if terminalStatus target then some timestamp else row.activeUntil
    agreementEndedAt := if terminalStatus target then some timestamp else row.agreementEndedAt }

/-- `transition`. -/
def transition (assignments : List ProviderAssignment) (assignmentId : Nat)
    (target : ProviderAssignmentStatus) (reason : Option String) (timestamp : DateTime) :
    Except String (List ProviderAssignment) := do
  let assignment ← found (Table.get ProviderAssignment.id assignments assignmentId)
    "assignment_not_found"
  if target = assignment.status then .ok assignments
  else do
    require (target ∈ allowedTransitions assignment.status)
      ("invalid_assignment_transition:" ++ statusValue assignment.status ++ ":" ++ statusValue target)
    require (target = .active → ∀ active ∈ activeAssignment assignments assignment.propertyId,
      active.id = assignment.id) "property_already_has_active_assignment"
    require (terminalStatus target → reason.getD "" ≠ "") "terminal_transition_requires_reason"
    return Table.update ProviderAssignment.id assignments assignmentId
      (ProviderAssignment.moved target reason timestamp)

/-- A candidate passes the pilot on its way: the transitions that end
`replace_assignment` and `activate_provider`. -/
def activate (assignments : List ProviderAssignment) (assignmentId : Nat) (timestamp : DateTime) :
    Except String (List ProviderAssignment) := do
  let assignment ← found (Table.get ProviderAssignment.id assignments assignmentId)
    "assignment_not_found"
  if assignment.status = .candidate then do
    let piloted ← transition assignments assignmentId .pilot none timestamp
    transition piloted assignmentId .active none timestamp
  else transition assignments assignmentId .active none timestamp

/-- `replacement.replaced_assignment_id = current.id`. -/
def ProviderAssignment.linked (current : Nat) (row : ProviderAssignment) : ProviderAssignment :=
  { row with replacedAssignmentId := some current }

/-- `replace_assignment`. -/
def replaceAssignment (assignments : List ProviderAssignment)
    (currentAssignmentId replacementAssignmentId : Nat) (reason : String) (timestamp : DateTime) :
    Except String (List ProviderAssignment) := do
  let current ← found (Table.get ProviderAssignment.id assignments currentAssignmentId)
    "assignment_not_found"
  let replacement ← found (Table.get ProviderAssignment.id assignments replacementAssignmentId)
    "assignment_not_found"
  require (current.propertyId = replacement.propertyId) "replacement_property_mismatch"
  require (current.status = .active) "replacement_requires_active_assignment"
  let ended ← transition assignments current.id .replaced (some reason) timestamp
  let linked := Table.update ProviderAssignment.id ended replacement.id (.linked current.id)
  activate linked replacement.id timestamp

/-! ## What the operations do -/

theorem nextId_notMem {α : Type} (id : α → Nat) (rows : List α) : nextId id rows ∉ rows.map id := by
  intro member
  obtain ⟨row, inside, same⟩ := List.mem_map.mp member
  have := nextId_fresh id rows row inside
  omega

theorem createAssignment_ok {profiles : List RoutingProfile}
    {assignments after : List ProviderAssignment} {input : AssignmentInput}
    (done : createAssignment profiles assignments input = .ok after) :
    after = assignments ++ [input.row (nextId ProviderAssignment.id assignments)] := by
  simp only [createAssignment, bind_ok, require_ok, pure_ok] at done
  obtain ⟨-, -, -, -, rfl⟩ := done
  rfl

@[simp] theorem ProviderAssignment.moved_id (target : ProviderAssignmentStatus) (reason : Option String)
    (timestamp : DateTime) (row : ProviderAssignment) :
    (row.moved target reason timestamp).id = row.id := rfl

@[simp] theorem ProviderAssignment.moved_status (target : ProviderAssignmentStatus)
    (reason : Option String) (timestamp : DateTime) (row : ProviderAssignment) :
    (row.moved target reason timestamp).status = target := rfl

@[simp] theorem ProviderAssignment.moved_propertyId (target : ProviderAssignmentStatus)
    (reason : Option String) (timestamp : DateTime) (row : ProviderAssignment) :
    (row.moved target reason timestamp).propertyId = row.propertyId := rfl

@[simp] theorem ProviderAssignment.moved_link (target : ProviderAssignmentStatus)
    (reason : Option String) (timestamp : DateTime) (row : ProviderAssignment) :
    (row.moved target reason timestamp).replacedAssignmentId = row.replacedAssignmentId := rfl

@[simp] theorem ProviderAssignment.linked_id (current : Nat) (row : ProviderAssignment) :
    (row.linked current).id = row.id := rfl

theorem ProviderAssignment.moved_pilot {reason : Option String} {timestamp : DateTime}
    {row : ProviderAssignment} :
    (row.moved .pilot reason timestamp).moved .active reason timestamp =
      row.moved .active reason timestamp := by
  simp [ProviderAssignment.moved, terminalStatus]

theorem get_moved {rows : List ProviderAssignment} {k j : Nat} {target : ProviderAssignmentStatus}
    {reason : Option String} {timestamp : DateTime} :
    Table.get ProviderAssignment.id
        (Table.update ProviderAssignment.id rows k (.moved target reason timestamp)) j =
      (Table.get ProviderAssignment.id rows j).map fun row =>
        if j = k then row.moved target reason timestamp else row :=
  Table.get_update (by exact fun _ => rfl) j

theorem get_linked {rows : List ProviderAssignment} {k j current : Nat} :
    Table.get ProviderAssignment.id (Table.update ProviderAssignment.id rows k (.linked current)) j =
      (Table.get ProviderAssignment.id rows j).map fun row =>
        if j = k then row.linked current else row :=
  Table.get_update (by exact fun _ => rfl) j

theorem ids_moved {rows : List ProviderAssignment} {k : Nat} {target : ProviderAssignmentStatus}
    {reason : Option String} {timestamp : DateTime} :
    (Table.update ProviderAssignment.id rows k (.moved target reason timestamp)).map
      ProviderAssignment.id = rows.map ProviderAssignment.id :=
  Table.map_update _ fun _ => rfl

theorem ids_linked {rows : List ProviderAssignment} {k current : Nat} :
    (Table.update ProviderAssignment.id rows k (.linked current)).map ProviderAssignment.id =
      rows.map ProviderAssignment.id :=
  Table.map_update _ fun _ => rfl

/-- The transition changed the row, as the machine allows it. -/
structure Moves (assignments : List ProviderAssignment) (target : ProviderAssignmentStatus)
    (reason : Option String) (timestamp : DateTime) (row : ProviderAssignment)
    (after : List ProviderAssignment) : Prop where
  row_found : Table.get ProviderAssignment.id assignments row.id = some row
  allowed : target ∈ allowedTransitions row.status
  free : target = .active → ∀ active ∈ activeAssignment assignments row.propertyId, active.id = row.id
  explained : terminalStatus target → reason.getD "" ≠ ""
  written : after = Table.update ProviderAssignment.id assignments row.id
    (ProviderAssignment.moved target reason timestamp)

section Transition
variable {assignments after : List ProviderAssignment} {assignmentId : Nat}
  {target : ProviderAssignmentStatus} {reason : Option String} {timestamp : DateTime}
  {row : ProviderAssignment}

theorem transition_ok (done : transition assignments assignmentId target reason timestamp = .ok after) :
    ∃ row, row.id = assignmentId ∧ Table.get ProviderAssignment.id assignments row.id = some row ∧
      (row.status = target ∧ after = assignments ∨
        row.status ≠ target ∧ Moves assignments target reason timestamp row after) := by
  simp only [transition, bind_ok, found_ok] at done
  obtain ⟨row, there, done⟩ := done
  obtain rfl := Table.get_key there
  refine ⟨row, rfl, there, ?_⟩
  by_cases same : target = row.status
  · rw [if_pos same] at done
    cases done
    exact Or.inl ⟨same.symm, rfl⟩
  · rw [if_neg same] at done
    simp only [bind_ok, require_ok, pure_ok] at done
    obtain ⟨-, allowed, -, free, -, explained, rfl⟩ := done
    exact Or.inr ⟨Ne.symm same, there, allowed, free, explained, rfl⟩

theorem terminal_stays (allowed : target ∈ allowedTransitions row.status) :
    terminalStatus row.status = false := by
  cases status : row.status <;> simp_all [allowedTransitions, terminalStatus]

/-- Where an assignment becomes active, the property had no active one. -/
theorem Moves.none_active (unique : (assignments.map ProviderAssignment.id).Nodup)
    (moves : Moves assignments target reason timestamp row after) (becomes : target = .active) :
    ∀ other ∈ assignments, other.propertyId = row.propertyId → other.status ≠ .active := by
  subst becomes
  intro other member same active
  obtain ⟨first, found⟩ : ∃ first, activeAssignment assignments row.propertyId = some first := by
    refine Option.isSome_iff_exists.mp ?_
    rw [activeAssignment, List.find?_isSome]
    exact ⟨other, member, by simp [same, active]⟩
  have one := moves.free rfl first found
  have there := List.mem_of_find?_eq_some found
  have holds := List.find?_some found
  simp only [Bool.and_eq_true, decide_eq_true_eq] at holds
  have := Table.get_inj unique there (Table.get_mem moves.row_found) one
  subst this
  have allowed := moves.allowed
  rw [holds.2] at allowed
  simp [allowedTransitions] at allowed

theorem activate_ok (unique : (assignments.map ProviderAssignment.id).Nodup)
    (done : activate assignments assignmentId timestamp = .ok after) :
    ∃ row, row.id = assignmentId ∧ Table.get ProviderAssignment.id assignments row.id = some row ∧
      (row.status = .active ∧ after = assignments ∨
        row.status ≠ .active ∧ terminalStatus row.status = false ∧
          (∀ other ∈ assignments, other.propertyId = row.propertyId → other.status ≠ .active) ∧
          after = Table.update ProviderAssignment.id assignments row.id
            (ProviderAssignment.moved .active none timestamp)) := by
  simp only [activate, bind_ok, found_ok] at done
  obtain ⟨row, there, done⟩ := done
  obtain rfl := Table.get_key there
  refine ⟨row, rfl, there, ?_⟩
  split at done
  · rename_i candidate
    rw [bind_ok] at done
    obtain ⟨piloted, first, second⟩ := done
    obtain ⟨other, one, found, ⟨same, -⟩ | ⟨-, pilot⟩⟩ := transition_ok first
    · rw [one, there] at found
      cases found
      rw [candidate] at same
      cases same
    · rw [one, there] at found
      cases found
      obtain rfl := pilot.written
      obtain ⟨moved, id, found, last⟩ := transition_ok second
      rw [id, get_moved, there, Option.map_some, if_pos rfl] at found
      cases found
      obtain ⟨active, -⟩ | ⟨-, last⟩ := last
      · cases active
      · refine Or.inr ⟨by rw [candidate]; decide, by rw [candidate]; rfl, ?_, ?_⟩
        · intro other member same active
          refine last.none_active (by rw [ids_moved]; exact unique) rfl other ?_ same active
          refine Table.mem_update.mpr (Or.inr ⟨member, fun one => ?_⟩)
          have := Table.get_inj unique member (Table.get_mem there) one
          subst this
          rw [candidate] at active
          cases active
        · rw [last.written, Table.update, Table.update, Table.update, List.map_map]
          refine List.map_congr_left fun other _ => ?_
          by_cases one : other.id = row.id
          · simp [one, ProviderAssignment.moved_pilot]
          · simp [one]
  · obtain ⟨other, one, found, last⟩ := transition_ok done
    rw [one, there] at found
    cases found
    obtain ⟨active, rfl⟩ | ⟨differs, last⟩ := last
    · exact Or.inl ⟨active, rfl⟩
    · exact Or.inr ⟨differs, terminal_stays last.allowed, last.none_active unique rfl, last.written⟩

end Transition

/-- `uq_provider_assignments_active_property`. -/
def OneActive (rows : List ProviderAssignment) : Prop :=
  ∀ a ∈ rows, ∀ b ∈ rows, a.propertyId = b.propertyId → a.status = .active → b.status = .active →
    a.id = b.id

/-- What a successful `replace_assignment` found and wrote. -/
structure Replaces (rows : List ProviderAssignment) (reason : String) (timestamp : DateTime)
    (current replacement : ProviderAssignment) (after : List ProviderAssignment) : Prop where
  current_found : Table.get ProviderAssignment.id rows current.id = some current
  replacement_found : Table.get ProviderAssignment.id rows replacement.id = some replacement
  apart : replacement.id ≠ current.id
  same_property : current.propertyId = replacement.propertyId
  current_active : current.status = .active
  replacement_open : terminalStatus replacement.status = false
  explained : reason ≠ ""
  written : after = rows.map fun row =>
    if row.id = current.id then row.moved .replaced (some reason) timestamp
    else if row.id = replacement.id then (row.linked current.id).moved .active none timestamp
    else row

theorem replaceAssignment_ok {rows after : List ProviderAssignment} {currentId replacementId : Nat}
    {reason : String} {timestamp : DateTime} (unique : (rows.map ProviderAssignment.id).Nodup)
    (oneActive : OneActive rows) (done : replaceAssignment rows currentId replacementId reason timestamp = .ok after) :
    ∃ current replacement, current.id = currentId ∧ replacement.id = replacementId ∧
      Replaces rows reason timestamp current replacement after := by
  simp only [replaceAssignment, bind_ok, found_ok, require_ok] at done
  obtain ⟨current, there, replacement, other, -, same, -, active, ended, first, last⟩ := done
  obtain rfl := Table.get_key there
  obtain rfl := Table.get_key other
  obtain ⟨row, one, found, ⟨replaced, -⟩ | ⟨-, move⟩⟩ := transition_ok first
  · rw [one, there] at found
    cases found
    rw [active] at replaced
    cases replaced
  · rw [one, there] at found
    cases found
    obtain rfl := move.written
    obtain ⟨waiting, id, found, last⟩ := activate_ok (by rw [ids_linked, ids_moved]; exact unique) last
    rw [id, get_linked, get_moved, other, Option.map_some, Option.map_some, if_pos rfl] at found
    have apart : replacement.id ≠ current.id := by
      intro one
      rw [if_pos one] at found
      cases found
      obtain ⟨active, -⟩ | ⟨-, open_, -⟩ := last
      · cases active
      · cases open_
    rw [if_neg apart] at found
    cases found
    obtain ⟨both, -⟩ | ⟨-, open_, -, rfl⟩ := last
    · exact absurd (oneActive _ (Table.get_mem other) _ (Table.get_mem there) same.symm both active) apart
    refine ⟨current, replacement, rfl, rfl, there, other, apart, same, active, open_, ?_, ?_⟩
    · exact move.explained rfl
    · rw [Table.update, Table.update, Table.update, List.map_map, List.map_map]
      refine List.map_congr_left fun row _ => ?_
      by_cases first : row.id = current.id
      · simp [first, Ne.symm apart]
      · by_cases second : row.id = replacement.id
        · simp [second, apart, ProviderAssignment.linked]
        · simp [first, second]

theorem Moves.mem {rows after : List ProviderAssignment} {target : ProviderAssignmentStatus}
    {reason : Option String} {timestamp : DateTime} {row : ProviderAssignment}
    (unique : (rows.map ProviderAssignment.id).Nodup)
    (moves : Moves rows target reason timestamp row after) (other : ProviderAssignment) :
    other ∈ after ↔ other = row.moved target reason timestamp ∨ other ∈ rows ∧ other.id ≠ row.id := by
  rw [moves.written]
  exact Table.mem_update_row unique (Table.get_mem moves.row_found)

theorem Replaces.mem {rows after : List ProviderAssignment} {reason : String} {timestamp : DateTime}
    {current replacement : ProviderAssignment} (unique : (rows.map ProviderAssignment.id).Nodup)
    (replaces : Replaces rows reason timestamp current replacement after) (other : ProviderAssignment) :
    other ∈ after ↔ other = current.moved .replaced (some reason) timestamp ∨
      other = (replacement.linked current.id).moved .active none timestamp ∨
      other ∈ rows ∧ other.id ≠ current.id ∧ other.id ≠ replacement.id := by
  have first := Table.get_mem replaces.current_found
  have second := Table.get_mem replaces.replacement_found
  rw [replaces.written, List.mem_map]
  constructor
  · rintro ⟨old, member, rfl⟩
    by_cases ended : old.id = current.id
    · rw [if_pos ended, Table.get_inj unique member first ended]
      exact Or.inl rfl
    · by_cases began : old.id = replacement.id
      · rw [if_neg ended, if_pos began, Table.get_inj unique member second began]
        exact Or.inr (Or.inl rfl)
      · rw [if_neg ended, if_neg began]
        exact Or.inr (Or.inr ⟨member, ended, began⟩)
  · rintro (rfl | rfl | ⟨member, ended, began⟩)
    · exact ⟨current, first, if_pos rfl⟩
    · exact ⟨replacement, second, by rw [if_neg replaces.apart, if_pos rfl]⟩
    · exact ⟨other, member, by rw [if_neg ended, if_neg began]⟩

theorem Replaces.ids {rows after : List ProviderAssignment} {reason : String} {timestamp : DateTime}
    {current replacement : ProviderAssignment}
    (replaces : Replaces rows reason timestamp current replacement after) :
    after.map ProviderAssignment.id = rows.map ProviderAssignment.id := by
  rw [replaces.written]
  refine Table.keys_map (fun row => ?_) rows
  split
  · rfl
  · split <;> rfl

/-! ## One active assignment -/

section OneActive
variable {rows after : List ProviderAssignment} {timestamp : DateTime}

theorem OneActive.create (one : OneActive rows) (input : AssignmentInput) (id : Nat) :
    OneActive (rows ++ [input.row id]) := by
  intro a inside b among same first second
  rw [List.mem_append, List.mem_singleton] at inside among
  obtain inside | rfl := inside
  · obtain among | rfl := among
    · exact one a inside b among same first second
    · cases second
  · cases first

theorem OneActive.move (one : OneActive rows) (unique : (rows.map ProviderAssignment.id).Nodup)
    {target : ProviderAssignmentStatus} {reason : Option String} {row : ProviderAssignment}
    (moves : Moves rows target reason timestamp row after) : OneActive after := by
  intro a inside b among same first second
  rw [moves.mem unique] at inside among
  obtain rfl | ⟨inside, -⟩ := inside
  · obtain rfl | ⟨among, -⟩ := among
    · rfl
    · exact absurd second (moves.none_active unique first b among same.symm)
  · obtain rfl | ⟨among, -⟩ := among
    · exact absurd first (moves.none_active unique second a inside same)
    · exact one a inside b among same first second

theorem OneActive.replace (one : OneActive rows) (unique : (rows.map ProviderAssignment.id).Nodup)
    {reason : String} {current replacement : ProviderAssignment}
    (replaces : Replaces rows reason timestamp current replacement after) : OneActive after := by
  have there := Table.get_mem replaces.current_found
  -- who else is active was so before, on another property
  have other : ∀ a ∈ rows, a.id ≠ current.id → a.status = .active →
      a.propertyId ≠ replacement.propertyId := by
    intro a inside differs active same
    exact differs (one a inside current there (same.trans replaces.same_property.symm) active
      replaces.current_active)
  intro a inside b among same first second
  rw [replaces.mem unique] at inside among
  obtain rfl | rfl | ⟨inside, differs, -⟩ := inside
  · cases first
  · obtain rfl | rfl | ⟨among, differs, -⟩ := among
    · cases second
    · rfl
    · exact absurd same.symm (other b among differs second)
  · obtain rfl | rfl | ⟨among, -⟩ := among
    · cases second
    · exact absurd same (other a inside differs first)
    · exact one a inside b among same first second

theorem activeAssignment_some (unique : (rows.map ProviderAssignment.id).Nodup) (one : OneActive rows)
    {propertyId : String} {row : ProviderAssignment} :
    activeAssignment rows propertyId = some row ↔
      row ∈ rows ∧ row.propertyId = propertyId ∧ row.status = .active := by
  constructor
  · intro found
    have holds := List.find?_some found
    simp only [Bool.and_eq_true, decide_eq_true_eq] at holds
    exact ⟨List.mem_of_find?_eq_some found, holds⟩
  · rintro ⟨member, rfl, active⟩
    obtain ⟨first, found⟩ : ∃ first, activeAssignment rows row.propertyId = some first := by
      refine Option.isSome_iff_exists.mp ?_
      rw [activeAssignment, List.find?_isSome]
      exact ⟨row, member, by simp [active]⟩
    have there := List.mem_of_find?_eq_some found
    have holds := List.find?_some found
    simp only [Bool.and_eq_true, decide_eq_true_eq] at holds
    rw [found, Table.get_inj unique there member (one _ there _ member holds.1 holds.2 active)]

/-- The active assignment of a property none of whose active rows changed. -/
theorem activeAssignment_congr (unique : (rows.map ProviderAssignment.id).Nodup) (one : OneActive rows)
    (unique' : (after.map ProviderAssignment.id).Nodup) (one' : OneActive after) {propertyId : String}
    (same : ∀ row : ProviderAssignment, row.propertyId = propertyId → row.status = .active →
      (row ∈ after ↔ row ∈ rows)) :
    activeAssignment after propertyId = activeAssignment rows propertyId := by
  refine Option.ext fun row => ?_
  rw [activeAssignment_some unique' one', activeAssignment_some unique one]
  constructor
  · rintro ⟨member, owner, active⟩
    exact ⟨(same row owner active).mp member, owner, active⟩
  · rintro ⟨member, owner, active⟩
    exact ⟨(same row owner active).mpr member, owner, active⟩

end OneActive

end RankRent.Properties
