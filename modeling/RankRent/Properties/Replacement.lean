import RankRent.Library.Effects
import RankRent.Properties.Providers

/-!
# Replacing a provider

`transition` and `replace_assignment` of `lead_routing/services.py` on the rows
of the session, where what a call wrote before it raised stays written.
-/

namespace RankRent.Properties
open Leads (ProviderAssignmentStatus)
open Checks Effects

/-- A call on the session's assignments: its result or its error, with the rows it leaves. -/
abbrev OnAssignments := EStateM String (List ProviderAssignment)

/-- `session.get(ProviderAssignmentORM, assignment_id)`, raising where there is none. -/
def heldRow (assignmentId : Nat) : OnAssignments ProviderAssignment :=
  lookup (fun rows => Table.get ProviderAssignment.id rows assignmentId) "assignment_not_found"

/-- An assignment to columns of a row. -/
def setColumns (assignmentId : Nat) (change : ProviderAssignment → ProviderAssignment) :
    OnAssignments Unit :=
  modify fun rows => Table.update ProviderAssignment.id rows assignmentId change

/-- The columns of a first activation. -/
def ProviderAssignment.started (timestamp : DateTime) (row : ProviderAssignment) :
    ProviderAssignment :=
  { row with
    activeFrom := row.activeFrom.or (some timestamp)
    agreementStartedAt := row.agreementStartedAt.or (some timestamp) }

/-- The columns of an end. -/
def ProviderAssignment.ended (reason : Option String) (timestamp : DateTime)
    (row : ProviderAssignment) : ProviderAssignment :=
  { row with
    terminationReason := reason
    activeUntil := some timestamp
    agreementEndedAt := some timestamp }

/-- `assignment.status = target.value`. -/
def ProviderAssignment.becomes (target : ProviderAssignmentStatus) (row : ProviderAssignment) :
    ProviderAssignment :=
  { row with status := target }

/-- `transition`, with each column written where the source writes it. -/
def transitionHeld (assignmentId : Nat) (target : ProviderAssignmentStatus) (reason : Option String)
    (timestamp : DateTime) : OnAssignments Unit := do
  let assignment ← heldRow assignmentId
  if target = assignment.status then pure ()
  else do
    check (target ∈ allowedTransitions assignment.status)
      ("invalid_assignment_transition:" ++ statusValue assignment.status ++ ":" ++ statusValue target)
    if target = .active then do
      let rows ← get
      check (∀ active ∈ activeAssignment rows assignment.propertyId, active.id = assignment.id)
        "property_already_has_active_assignment"
      setColumns assignmentId (.started timestamp)
      setColumns assignmentId (.becomes target)
    else if terminalStatus target then do
      check (reason.getD "" ≠ "") "terminal_transition_requires_reason"
      setColumns assignmentId (.ended reason timestamp)
      setColumns assignmentId (.becomes target)
    else setColumns assignmentId (.becomes target)

/-- The transitions that end `replace_assignment`. -/
def activateHeld (assignmentId : Nat) (timestamp : DateTime) : OnAssignments Unit := do
  let replacement ← heldRow assignmentId
  if replacement.status = .candidate then do
    transitionHeld assignmentId .pilot none timestamp
    transitionHeld assignmentId .active none timestamp
  else transitionHeld assignmentId .active none timestamp

/-- `replace_assignment`. The replacement is read again after the first
transition: the session holds one object for each row. -/
def replaceHeld (currentAssignmentId replacementAssignmentId : Nat) (reason : String)
    (timestamp : DateTime) : OnAssignments Unit := do
  let current ← heldRow currentAssignmentId
  let replacement ← heldRow replacementAssignmentId
  check (current.propertyId = replacement.propertyId) "replacement_property_mismatch"
  check (current.status = .active) "replacement_requires_active_assignment"
  transitionHeld current.id .replaced (some reason) timestamp
  setColumns replacement.id (.linked current.id)
  activateHeld replacement.id timestamp

/-! ## A transition checks before it writes -/

section Transition
variable {rows : List ProviderAssignment} {row : ProviderAssignment} {assignmentId : Nat}
  {target : ProviderAssignmentStatus} {reason : Option String} {timestamp : DateTime}

theorem heldRow_some (there : Table.get ProviderAssignment.id rows assignmentId = some row) :
    heldRow assignmentId rows = .ok row rows := by
  rw [heldRow, lookup, there]

theorem heldRow_none (absent : Table.get ProviderAssignment.id rows assignmentId = none) :
    heldRow assignmentId rows = .error "assignment_not_found" rows := by
  rw [heldRow, lookup, absent]

theorem setColumns_twice {f g h : ProviderAssignment → ProviderAssignment}
    (keeps : ∀ row, (f row).id = row.id) (composed : ∀ row, g (f row) = h row) :
    (do setColumns assignmentId f; setColumns assignmentId g) = setColumns assignmentId h := by
  funext rows
  simp only [setColumns, bind_at, modify_at, Table.update, List.map_map]
  congr 1
  apply List.map_congr_left
  intro row _
  by_cases same : row.id = assignmentId
  · simp [same, keeps, composed]
  · simp [same]

theorem setColumns_active (reason : Option String) :
    (do setColumns assignmentId (.started timestamp); setColumns assignmentId (.becomes .active)) =
      setColumns assignmentId (.moved .active reason timestamp) := by
  apply setColumns_twice
  · exact fun _ => rfl
  intro row
  simp [ProviderAssignment.becomes, ProviderAssignment.started, ProviderAssignment.moved, terminalStatus]

theorem setColumns_terminal (ends : terminalStatus target = true) :
    (do setColumns assignmentId (.ended reason timestamp); setColumns assignmentId (.becomes target)) =
      setColumns assignmentId (.moved target reason timestamp) := by
  have inactive : target ≠ .active := by
    rintro rfl
    cases ends
  apply setColumns_twice
  · exact fun _ => rfl
  intro row
  simp [ProviderAssignment.becomes, ProviderAssignment.ended, ProviderAssignment.moved, inactive, ends]

theorem setColumns_waiting (reason : Option String) (timestamp : DateTime)
    (inactive : target ≠ .active) (lives : terminalStatus target = false) :
    setColumns assignmentId (.becomes target) =
      setColumns assignmentId (.moved target reason timestamp) := by
  congr 1
  funext row
  simp [ProviderAssignment.becomes, ProviderAssignment.moved, inactive, lives]

/-- What `transition` writes it writes after its last check, so a refused one
leaves the rows as they were. -/
theorem transitionHeld_eq (assignmentId : Nat) (target : ProviderAssignmentStatus)
    (reason : Option String) (timestamp : DateTime) :
    transitionHeld assignmentId target reason timestamp =
      attempt fun rows => transition rows assignmentId target reason timestamp := by
  funext rows
  rw [attempt, transitionHeld, bind_at, transition]
  cases there : Table.get ProviderAssignment.id rows assignmentId with
  | none =>
    rw [heldRow_none there, found, error_bind]
  | some row =>
    simp only [heldRow_some there, found, ok_bind]
    by_cases same : target = row.status
    · simp only [if_pos same, pure_at]
    simp only [if_neg same, bind_at]
    by_cases allowed : target ∈ allowedTransitions row.status
    · simp only [check_pos allowed, require, if_pos allowed, ok_bind]
      by_cases activates : target = .active
      · subst activates
        rw [if_pos rfl, setColumns_active reason]
        by_cases free : ∀ active ∈ activeAssignment rows row.propertyId, active.id = row.id
        · simp only [bind_at, get_at, check_pos free, setColumns, modify_at]
          rw [if_pos fun _ => free, if_pos fun ends => absurd ends (by decide)]
          rfl
        · simp only [bind_at, get_at, check_neg free]
          rw [if_neg fun all => free (all trivial)]
          rfl
      · rw [if_neg activates, if_pos fun active => absurd active activates]
        by_cases ends : terminalStatus target = true
        · rw [if_pos ends, setColumns_terminal ends]
          by_cases explained : reason.getD "" ≠ ""
          · simp only [bind_at, check_pos explained, setColumns, modify_at]
            rw [if_pos fun _ => explained]
            rfl
          · simp only [bind_at, check_neg explained]
            rw [if_neg fun all => explained (all ends)]
            rfl
        · rw [if_neg ends, if_pos fun both => absurd both ends,
            setColumns_waiting reason timestamp activates (Bool.eq_false_iff.mpr ends)]
          rfl
    · simp only [check_neg allowed, require, if_neg allowed, error_bind]

end Transition

/-! ## What a replacement leaves -/

section Replacement
variable {rows after : List ProviderAssignment} {row current replacement : ProviderAssignment}
  {target : ProviderAssignmentStatus} {reason : Option String} {timestamp : DateTime}

theorem transition_allowed (there : Table.get ProviderAssignment.id rows row.id = some row)
    (allowed : target ∈ allowedTransitions row.status)
    (free : target = .active →
      ∀ active ∈ activeAssignment rows row.propertyId, active.id = row.id)
    (explained : terminalStatus target → reason.getD "" ≠ "") :
    transition rows row.id target reason timestamp =
      .ok (Table.update ProviderAssignment.id rows row.id (.moved target reason timestamp)) := by
  have differs : target ≠ row.status := by
    rintro rfl
    cases status : row.status <;> rw [status] at allowed <;> exact absurd allowed (by decide)
  rw [transition, there, found, ok_bind, if_neg differs, require, if_pos allowed, ok_bind,
    require, if_pos free, ok_bind, require, if_pos explained]
  rfl

theorem transition_refused (target : ProviderAssignmentStatus) (reason : Option String)
    (timestamp : DateTime) (there : Table.get ProviderAssignment.id rows row.id = some row)
    (differs : target ≠ row.status) (refused : target ∉ allowedTransitions row.status) :
    ∃ raised, transition rows row.id target reason timestamp = .error raised := by
  rw [transition, there, found, ok_bind, if_neg differs, require, if_neg refused]
  exact ⟨_, rfl⟩

theorem activeAssignment_none {propertyId : String} :
    activeAssignment rows propertyId = none ↔
      ∀ row ∈ rows, row.propertyId = propertyId → row.status ≠ .active := by
  simp only [activeAssignment, List.find?_eq_none, Bool.and_eq_true, decide_eq_true_eq, not_and,
    ne_eq]

/-- A transition of the row's own leaves the other rows of a property as they are. -/
theorem activeAssignment_moved (free : activeAssignment rows row.propertyId = none)
    (inactive : target ≠ .active) {assignmentId : Nat} :
    activeAssignment (Table.update ProviderAssignment.id rows assignmentId
      (.moved target reason timestamp)) row.propertyId = none := by
  rw [activeAssignment_none] at free ⊢
  intro other member same
  rw [Table.mem_update] at member
  obtain ⟨old, -, -, rfl⟩ | ⟨member, -⟩ := member
  · exact inactive
  · exact free other member same

theorem transitionHeld_allowed (target : ProviderAssignmentStatus) (reason : Option String)
    (timestamp : DateTime) (there : Table.get ProviderAssignment.id rows row.id = some row)
    (allowed : target ∈ allowedTransitions row.status)
    (free : target = .active → activeAssignment rows row.propertyId = none)
    (explained : terminalStatus target → reason.getD "" ≠ "") :
    transitionHeld row.id target reason timestamp rows =
      .ok () (Table.update ProviderAssignment.id rows row.id (.moved target reason timestamp)) := by
  rw [transitionHeld_eq]
  apply attempt_ok
  apply transition_allowed there allowed _ explained
  intro active
  simp [free active]

/-- On a property without an active assignment, one that has not ended becomes
active; one that has ended is refused. -/
theorem activateHeld_free (timestamp : DateTime)
    (there : Table.get ProviderAssignment.id rows row.id = some row)
    (free : activeAssignment rows row.propertyId = none) :
    (terminalStatus row.status = false ∧ activateHeld row.id timestamp rows =
        .ok () (Table.update ProviderAssignment.id rows row.id (.moved .active none timestamp))) ∨
      (terminalStatus row.status = true ∧
        ∃ raised, activateHeld row.id timestamp rows = .error raised rows) := by
  rw [activateHeld, bind_at, heldRow_some there]
  cases status : row.status with
  | active => exact absurd status (activeAssignment_none.mp free row (Table.get_mem there) rfl)
  | candidate =>
    left
    have piloted : Table.get ProviderAssignment.id (Table.update ProviderAssignment.id rows row.id
        (.moved .pilot none timestamp)) row.id = some (row.moved .pilot none timestamp) := by
      rw [get_moved, there, Option.map_some, if_pos rfl]
    constructor
    · rfl
    simp only [if_pos status, bind_at]
    rw [transitionHeld_allowed .pilot none timestamp there (by rw [status]; decide) (by rintro ⟨⟩)
      (by decide)]
    have second := transitionHeld_allowed .active none timestamp
      (show Table.get ProviderAssignment.id _ (row.moved .pilot none timestamp).id = _ from piloted)
      (by rw [ProviderAssignment.moved_status]; decide)
      (fun _ => activeAssignment_moved free (by decide)) (by decide)
    rw [ProviderAssignment.moved_id] at second
    simp only [second]
    congr 1
    rw [Table.update, Table.update, Table.update, List.map_map]
    apply List.map_congr_left
    intro other _
    by_cases one : other.id = row.id
    · simp [one, ProviderAssignment.moved_pilot]
    · simp [one]
  | pilot | paused =>
    left
    constructor
    · rfl
    simp only [status]
    rw [if_neg (by decide)]
    exact transitionHeld_allowed .active none timestamp there (by rw [status]; decide) (fun _ => free) (by decide)
  | terminated | replaced =>
    right
    obtain ⟨raised, refused⟩ := transition_refused .active none timestamp there
      (by rw [status]; decide) (by rw [status]; decide)
    constructor
    · rfl
    use raised
    simp only [status]
    rw [if_neg (by decide), transitionHeld_eq, attempt_error refused]

/-- What `replace_assignment` has checked when it begins to write. -/
structure Checked (rows : List ProviderAssignment) (reason : String)
    (current replacement : ProviderAssignment) : Prop where
  current_found : Table.get ProviderAssignment.id rows current.id = some current
  replacement_found : Table.get ProviderAssignment.id rows replacement.id = some replacement
  same_property : current.propertyId = replacement.propertyId
  current_active : current.status = .active
  explained : reason ≠ ""

/-- The rows when the current assignment has ended and the replacement names it. -/
def retired (rows : List ProviderAssignment) (currentId replacementId : Nat) (reason : String)
    (timestamp : DateTime) : List ProviderAssignment :=
  Table.update ProviderAssignment.id
    (Table.update ProviderAssignment.id rows currentId (.moved .replaced (some reason) timestamp))
    replacementId (.linked currentId)

theorem replaceHeld_unchecked {currentId replacementId : Nat} {reason : String} (timestamp : DateTime)
    (failed : ∀ current replacement, Checked rows reason current replacement →
      ¬(current.id = currentId ∧ replacement.id = replacementId)) :
    ∃ raised, replaceHeld currentId replacementId reason timestamp rows = .error raised rows := by
  rw [replaceHeld, bind_at]
  cases there : Table.get ProviderAssignment.id rows currentId with
  | none =>
    rw [heldRow_none there]
    exact ⟨_, rfl⟩
  | some current =>
  obtain rfl := Table.get_key there
  simp only [heldRow_some there, bind_at]
  cases other : Table.get ProviderAssignment.id rows replacementId with
  | none =>
    rw [heldRow_none other]
    exact ⟨_, rfl⟩
  | some replacement =>
  obtain rfl := Table.get_key other
  simp only [heldRow_some other]
  by_cases same : current.propertyId = replacement.propertyId
  swap
  · rw [check_neg same]
    exact ⟨_, rfl⟩
  simp only [check_pos same]
  by_cases active : current.status = .active
  swap
  · rw [check_neg active]
    exact ⟨_, rfl⟩
  have empty : reason = "" := by
    by_contra explained
    exact failed current replacement ⟨there, other, same, active, explained⟩ ⟨rfl, rfl⟩
  subst empty
  have refused : transitionHeld current.id .replaced (some "") timestamp rows =
      .error "terminal_transition_requires_reason" rows := by
    rw [transitionHeld_eq]
    apply attempt_error
    simp [transition, there, found, require, active, allowedTransitions, terminalStatus, ok_bind]
  simp only [check_pos active, refused]
  exact ⟨_, rfl⟩

theorem replaceHeld_checked {reason : String} (checked : Checked rows reason current replacement) :
    replaceHeld current.id replacement.id reason timestamp rows =
      activateHeld replacement.id timestamp
        (retired rows current.id replacement.id reason timestamp) := by
  have first := transitionHeld_allowed .replaced (some reason) timestamp checked.current_found
    (by rw [checked.current_active]; decide) (by rintro ⟨⟩) fun _ => checked.explained
  simp only [replaceHeld, bind_at, heldRow_some checked.current_found,
    heldRow_some checked.replacement_found, check_pos checked.same_property,
    check_pos checked.current_active, first, setColumns, modify_at, retired]

theorem retired_free (timestamp : DateTime) (unique : (rows.map ProviderAssignment.id).Nodup)
    (one : OneActive rows) {reason : String} (checked : Checked rows reason current replacement) :
    activeAssignment (retired rows current.id replacement.id reason timestamp)
      replacement.propertyId = none := by
  have there := Table.get_mem checked.current_found
  have ended : ∀ row ∈ Table.update ProviderAssignment.id rows current.id
      (.moved .replaced (some reason) timestamp),
      row.propertyId = replacement.propertyId → row.status ≠ .active := by
    intro row member same active
    rw [Table.mem_update_row unique there] at member
    obtain rfl | ⟨member, differs⟩ := member
    · cases active
    · exact differs (one row member current there (same.trans checked.same_property.symm) active
        checked.current_active)
  rw [activeAssignment_none]
  intro row member same
  rw [retired, Table.mem_update] at member
  obtain ⟨old, member, -, rfl⟩ | ⟨member, -⟩ := member
  · exact ended old member same
  · exact ended row member same

theorem get_retired {reason : String} (assignmentId : Nat) {currentId replacementId : Nat} :
    Table.get ProviderAssignment.id (retired rows currentId replacementId reason timestamp) assignmentId =
      (Table.get ProviderAssignment.id rows assignmentId).map fun row =>
        let ended := if assignmentId = currentId then row.moved .replaced (some reason) timestamp else row
        if assignmentId = replacementId then ended.linked currentId else ended := by
  rw [retired, get_linked, get_moved, Option.map_map]
  rfl

/-- `rows` and `after` agree, but that `current` has ended and `replacement`
is the only active assignment of their property. -/
structure Replaced (rows after : List ProviderAssignment) (current replacement : ProviderAssignment) :
    Prop where
  current_found : Table.get ProviderAssignment.id after current.id = some current
  replacement_found : Table.get ProviderAssignment.id after replacement.id = some replacement
  same_property : current.propertyId = replacement.propertyId
  ended : current.status = .replaced
  began : replacement.status = .active
  only : ∀ other ∈ after, other.propertyId = replacement.propertyId → other.status = .active →
    other = replacement
  kept : ∀ assignmentId, assignmentId ≠ current.id → assignmentId ≠ replacement.id →
    Table.get ProviderAssignment.id after assignmentId = Table.get ProviderAssignment.id rows assignmentId

/-- A replacement happens, or the session keeps its rows. -/
def AllOrNothing (rows : List ProviderAssignment) (currentId replacementId : Nat) (reason : String)
    (timestamp : DateTime) : Prop :=
  match replaceHeld currentId replacementId reason timestamp rows with
  | .ok _ after => ∃ current replacement, current.id = currentId ∧ replacement.id = replacementId ∧
      Replaced rows after current replacement
  | .error _ after => after = rows

/-- Every check passes, and yet the replacement cannot become active: it is the
current assignment itself, or it has ended. -/
def RefusedLate (rows : List ProviderAssignment) (currentId replacementId : Nat) (reason : String) :
    Prop :=
  ∃ current replacement, Checked rows reason current replacement ∧
    current.id = currentId ∧ replacement.id = replacementId ∧
    (replacementId = currentId ∨ terminalStatus replacement.status = true)

/-- A replacement that cannot become active is refused when the current
assignment has already ended. -/
theorem replaceHeld_late (timestamp : DateTime) (unique : (rows.map ProviderAssignment.id).Nodup)
    (one : OneActive rows) {reason : String} (checked : Checked rows reason current replacement)
    (late : replacement.id = current.id ∨ terminalStatus replacement.status = true) :
    ∃ raised, replaceHeld current.id replacement.id reason timestamp rows =
      .error raised (retired rows current.id replacement.id reason timestamp) := by
  obtain ⟨row, found, id, owner, ends⟩ : ∃ row,
      Table.get ProviderAssignment.id (retired rows current.id replacement.id reason timestamp)
        replacement.id = some row ∧ row.id = replacement.id ∧
        row.propertyId = replacement.propertyId ∧ terminalStatus row.status = true := by
    rw [get_retired, checked.replacement_found, Option.map_some]
    by_cases same : replacement.id = current.id
    · simp only [if_pos same, if_true]
      exact ⟨_, rfl, rfl, rfl, rfl⟩
    · simp only [if_neg same, if_true]
      exact ⟨_, rfl, rfl, rfl, late.resolve_left same⟩
  rw [replaceHeld_checked checked, ← id]
  rw [← id] at found
  obtain ⟨lives, -⟩ | ⟨-, refused⟩ := activateHeld_free timestamp found
    (by rw [owner, id]; exact retired_free timestamp unique one checked)
  · rw [ends] at lives
    cases lives
  · exact refused

theorem replaceHeld_in_time (unique : (rows.map ProviderAssignment.id).Nodup) (one : OneActive rows)
    {reason : String} (checked : Checked rows reason current replacement)
    (apart : replacement.id ≠ current.id) (lives : terminalStatus replacement.status = false) :
    ∃ after, replaceHeld current.id replacement.id reason timestamp rows = .ok () after ∧
      Replaced rows after (current.moved .replaced (some reason) timestamp)
        ((replacement.linked current.id).moved .active none timestamp) := by
  have free := retired_free timestamp unique one checked
  have found : Table.get ProviderAssignment.id (retired rows current.id replacement.id reason timestamp)
      (replacement.linked current.id).id = some (replacement.linked current.id) := by
    rw [ProviderAssignment.linked_id, get_retired, checked.replacement_found, Option.map_some]
    simp only [if_neg apart, if_true]
  obtain ⟨-, done⟩ | ⟨ends, -⟩ := activateHeld_free timestamp found free
  swap
  · rw [show (replacement.linked current.id).status = replacement.status from rfl, lives] at ends
    cases ends
  refine ⟨_, (replaceHeld_checked checked).trans done, ?_⟩
  have keys : ((retired rows current.id replacement.id reason timestamp).map
      ProviderAssignment.id).Nodup := by
    rw [retired, ids_linked, ids_moved]
    exact unique
  rw [ProviderAssignment.linked_id] at found ⊢
  constructor
  · rw [ProviderAssignment.moved_id, get_moved, get_retired, checked.current_found]
    simp [Ne.symm apart]
  · rw [ProviderAssignment.moved_id, ProviderAssignment.linked_id, get_moved, found]
    simp
  · exact checked.same_property
  · rfl
  · rfl
  · intro other member same active
    rw [Table.mem_update] at member
    obtain ⟨old, inside, id, rfl⟩ | ⟨member, -⟩ := member
    · rw [Table.get_inj keys inside (Table.get_mem found) id]
    · exact absurd active (activeAssignment_none.mp free other member same)
  · intro assignmentId first second
    rw [ProviderAssignment.moved_id] at first
    rw [ProviderAssignment.moved_id, ProviderAssignment.linked_id] at second
    rw [get_moved, get_retired, Option.map_map]
    simp [Function.comp_def, first, second]

theorem retired_ne {currentId replacementId : Nat} {reason : String}
    (there : Table.get ProviderAssignment.id rows currentId = some current)
    (active : current.status = .active) : retired rows currentId replacementId reason timestamp ≠ rows := by
  intro same
  have read : Table.get ProviderAssignment.id (retired rows currentId replacementId reason timestamp)
      currentId = some current := by
    rw [same]
    exact there
  rw [get_retired, there, Option.map_some, if_pos rfl, Option.some_inj] at read
  have status : ProviderAssignmentStatus.replaced = .active := by
    rw [← active, ← read]
    by_cases linked : currentId = replacementId
    · simp [linked, ProviderAssignment.linked]
    · simp [linked]
  cases status

/-- A replacement is all or nothing exactly when it is not refused late. -/
theorem allOrNothing_iff (unique : (rows.map ProviderAssignment.id).Nodup) (one : OneActive rows)
    (currentId replacementId : Nat) (reason : String) (timestamp : DateTime) :
    AllOrNothing rows currentId replacementId reason timestamp ↔
      ¬RefusedLate rows currentId replacementId reason := by
  rw [AllOrNothing]
  constructor
  · rintro whole ⟨current, replacement, checked, rfl, rfl, late⟩
    obtain ⟨raised, refused⟩ := replaceHeld_late timestamp unique one checked late
    rw [refused] at whole
    exact retired_ne checked.current_found checked.current_active whole
  · intro timely
    by_cases checked : ∃ current replacement, Checked rows reason current replacement ∧
        current.id = currentId ∧ replacement.id = replacementId
    · obtain ⟨current, replacement, checked, rfl, rfl⟩ := checked
      have apart : replacement.id ≠ current.id := fun same =>
        timely ⟨current, replacement, checked, rfl, rfl, Or.inl same⟩
      have lives : terminalStatus replacement.status = false := by
        rw [← Bool.not_eq_true]
        exact fun ended => timely ⟨current, replacement, checked, rfl, rfl, Or.inr ended⟩
      obtain ⟨after, done, replaced⟩ := replaceHeld_in_time unique one checked apart lives
      rw [done]
      exact ⟨current.moved .replaced (some reason) timestamp,
        (replacement.linked current.id).moved .active none timestamp, rfl, rfl, replaced⟩
    · obtain ⟨raised, refused⟩ := replaceHeld_unchecked timestamp
        fun current replacement holds same => checked ⟨current, replacement, holds, same⟩
      rw [refused]

end Replacement

/-- An active provider of a property and the one that waits to follow it. -/
def harborProviders : List ProviderAssignment :=
  [{ (AssignmentInput.row ⟨"harbor-plumbing", "Harbor Plumbing", none, some "+12065550100", none,
      none, none, true⟩ 1) with status := .active },
    AssignmentInput.row ⟨"harbor-plumbing", "Sound Plumbing", none, some "+12065550101", none,
      none, none, true⟩ 2]

theorem harborProviders_valid :
    (harborProviders.map ProviderAssignment.id).Nodup ∧ OneActive harborProviders := by
  constructor
  · decide
  · intro a inside b among _ first second
    simp only [harborProviders, List.mem_cons, List.not_mem_nil, or_false] at inside among
    obtain rfl | rfl := inside <;> obtain rfl | rfl := among
    · rfl
    · cases second
    · cases first
    · rfl

theorem harbor_replaced : AllOrNothing harborProviders 1 2 "contract ended" 0 := by
  apply (allOrNothing_iff harborProviders_valid.1 harborProviders_valid.2 1 2 "contract ended" 0).mpr
  rintro ⟨current, replacement, checked, -, id, same | ended⟩
  · cases same
  · have found := checked.replacement_found
    rw [id] at found
    cases found
    cases ended

/-- The active provider named as its own replacement ends, and the request fails. -/
theorem harbor_replaces_itself :
    (harborProviders.map ProviderAssignment.id).Nodup ∧ OneActive harborProviders ∧
      ¬AllOrNothing harborProviders 1 1 "contract renewed" 0 := by
  refine ⟨harborProviders_valid.1, harborProviders_valid.2, fun whole => ?_⟩
  have checked : Checked harborProviders "contract renewed" harborProviders[0] harborProviders[0] :=
    ⟨rfl, rfl, rfl, rfl, by decide⟩
  obtain ⟨raised, refused⟩ := replaceHeld_late 0 harborProviders_valid.1 harborProviders_valid.2 checked
    (Or.inl rfl)
  rw [AllOrNothing, show (1 : Nat) = harborProviders[0].id from rfl, refused] at whole
  exact retired_ne checked.current_found rfl whole

end RankRent.Properties
