import RankRent.Properties.Providers
import RankRent.Library.Runs

/-!
# The provider assignment machine

Runs of `create_assignment`, `transition` and `replace_assignment`, each request
whole or not at all. Next to the tables stands the order in which assignments
were replaced, which no column keeps: a link is overwritten when the assignment
that holds it replaces another one.
-/

namespace RankRent.Properties
open Leads (ProviderAssignmentStatus nextId)
open Checks

structure Assignments where
  profiles : List RoutingProfile
  rows : List ProviderAssignment := []
  /-- Each replaced assignment with the one that replaced it, in order. -/
  replacements : List (Nat × Nat) := []

inductive AssignmentRequest
  | create (input : AssignmentInput)
  | transition (assignmentId : Nat) (target : ProviderAssignmentStatus) (reason : Option String)
  | replace (currentAssignmentId replacementAssignmentId : Nat) (reason : String)

def Assignments.handle (s : Assignments) (now : DateTime) : AssignmentRequest → Except String Assignments
  | .create input => do
    let rows ← createAssignment s.profiles s.rows input
    return { s with rows }
  | .transition assignmentId target reason => do
    let rows ← transition s.rows assignmentId target reason now
    return { s with rows }
  | .replace currentAssignmentId replacementAssignmentId reason => do
    let rows ← replaceAssignment s.rows currentAssignmentId replacementAssignmentId reason now
    return { s with
      rows
      replacements := s.replacements ++ [(currentAssignmentId, replacementAssignmentId)] }

/-- A request and its rollback where it fails. -/
def Assignments.serve (s : Assignments) (call : AssignmentRequest × DateTime) : Assignments :=
  match s.handle call.2 call.1 with
  | .ok t => t
  | .error _ => s

/-- Any request may come in any state. -/
abbrev AnyRun : Assignments → Assignments → Prop :=
  Runs.Reaches (fun _ _ => True) fun s call t => t = s.serve call

/-- Tables before the first assignment. -/
def Assignments.Fresh (s : Assignments) : Prop := s.rows = [] ∧ s.replacements = []

/-! ## What is to hold -/

/-- An ended assignment says why and since when. -/
def ProviderAssignment.Explained (row : ProviderAssignment) : Prop :=
  terminalStatus row.status = true →
    row.terminationReason.getD "" ≠ "" ∧ row.activeUntil.isSome ∧ row.agreementEndedAt.isSome

def Links (rows : List ProviderAssignment) (a b : Nat) : Prop :=
  ∃ row ∈ rows, row.id = a ∧ row.replacedAssignmentId = some b

def Acyclic (rows : List ProviderAssignment) : Prop := ∀ a, ¬ Relation.TransGen (Links rows) a a

/-- Ended assignments are in their status for good. -/
def Settled (rows later : List ProviderAssignment) : Prop :=
  ∀ row ∈ rows, terminalStatus row.status = true →
    ∃ kept ∈ later, kept.id = row.id ∧ kept.status = row.status

/-- A replaced assignment is referenced by the one that replaced it and by no other. -/
def Assignments.Referenced (s : Assignments) : Prop :=
  ∀ pair ∈ s.replacements, ∀ a, Links s.rows a pair.1 ↔ a = pair.2

/-- The assignment a request makes the replacement of another. -/
def replacementOf : AssignmentRequest → Option Nat
  | .replace _ replacementAssignmentId _ => some replacementAssignmentId
  | _ => none

/-- Where the request succeeds, its replacement holds no link yet. -/
def Assignments.Unlinked (s : Assignments) (call : AssignmentRequest × DateTime) : Prop :=
  (s.handle call.2 call.1).isOk → ∀ replacementAssignmentId ∈ replacementOf call.1,
    ∀ row ∈ s.rows, row.id = replacementAssignmentId → row.replacedAssignmentId = none

instance (s : Assignments) (call : AssignmentRequest × DateTime) : Decidable (s.Unlinked call) :=
  inferInstanceAs (Decidable (_ → ∀ replacementAssignmentId ∈ replacementOf call.1, _))

/-! ## Invariant -/

/-- The assignments that were replaced, in order. -/
def Assignments.order (s : Assignments) : List Nat := s.replacements.map Prod.fst

/-- What every request keeps. A link leads to an assignment that was replaced
before the one that holds it. -/
structure Assignments.Sound (s : Assignments) : Prop where
  distinct : (s.rows.map ProviderAssignment.id).Nodup
  oneActive : OneActive s.rows
  explained : ∀ row ∈ s.rows, row.Explained
  replacedOnce : s.order.Nodup
  replaced : ∀ a ∈ s.order, ∃ row ∈ s.rows, row.id = a ∧ row.status = .replaced
  recorded : ∀ row ∈ s.rows, ∀ a, row.replacedAssignmentId = some a → (a, row.id) ∈ s.replacements
  ranked : ∀ row ∈ s.rows, ∀ a, row.replacedAssignmentId = some a →
    s.order.idxOf a < s.order.idxOf row.id

section Sound
variable {s : Assignments}

theorem Assignments.Fresh.sound (fresh : s.Fresh) : s.Sound := by
  obtain ⟨rows, replacements⟩ := fresh
  constructor <;> simp [rows, replacements, Assignments.order, OneActive]

theorem Assignments.Sound.acyclic (sound : s.Sound) : Acyclic s.rows := by
  have descends : ∀ {a b}, Relation.TransGen (Links s.rows) a b → s.order.idxOf b < s.order.idxOf a := by
    intro a b path
    induction path with
    | single link =>
      obtain ⟨row, member, rfl, linked⟩ := link
      exact sound.ranked row member _ linked
    | tail _ link ih =>
      obtain ⟨row, member, rfl, linked⟩ := link
      exact (sound.ranked row member _ linked).trans ih
  intro a cycle
  exact lt_irrefl _ (descends cycle)

theorem Assignments.Sound.create (sound : s.Sound) (input : AssignmentInput) :
    ({ s with rows := s.rows ++ [input.row (nextId ProviderAssignment.id s.rows)] } :
      Assignments).Sound := by
  constructor
  · exact Table.keys_snoc sound.distinct (nextId_notMem ProviderAssignment.id s.rows)
  · exact sound.oneActive.create input _
  · intro row member
    rw [List.mem_append, List.mem_singleton] at member
    obtain member | rfl := member
    · exact sound.explained row member
    · intro ended
      cases ended
  · exact sound.replacedOnce
  · intro a listed
    obtain ⟨row, member, found⟩ := sound.replaced a listed
    exact ⟨row, List.mem_append_left _ member, found⟩
  · intro row member a linked
    rw [List.mem_append, List.mem_singleton] at member
    obtain member | rfl := member
    · exact sound.recorded row member a linked
    · cases linked
  · intro row member a linked
    rw [List.mem_append, List.mem_singleton] at member
    obtain member | rfl := member
    · exact sound.ranked row member a linked
    · cases linked

theorem Assignments.Sound.move (sound : s.Sound) {target : ProviderAssignmentStatus}
    {reason : Option String} {now : DateTime} {row : ProviderAssignment} {after : List ProviderAssignment}
    (moves : Moves s.rows target reason now row after) : ({ s with rows := after } : Assignments).Sound := by
  have there := Table.get_mem moves.row_found
  constructor
  · rw [moves.written, ids_moved]
    exact sound.distinct
  · exact sound.oneActive.move sound.distinct moves
  · intro other member ended
    obtain rfl | ⟨member, -⟩ := (moves.mem sound.distinct _).mp member
    · have terminal : terminalStatus target = true := ended
      simp only [ProviderAssignment.moved, terminal, ↓reduceIte]
      exact ⟨moves.explained terminal, rfl, rfl⟩
    · exact sound.explained other member ended
  · exact sound.replacedOnce
  · intro a listed
    obtain ⟨old, member, same, replaced⟩ := sound.replaced a listed
    refine ⟨old, (moves.mem sound.distinct _).mpr (Or.inr ⟨member, fun one => ?_⟩), same, replaced⟩
    have := Table.get_inj sound.distinct member there one
    subst this
    have open_ := terminal_stays moves.allowed
    rw [replaced] at open_
    cases open_
  · intro other member a linked
    obtain rfl | ⟨member, -⟩ := (moves.mem sound.distinct _).mp member
    · exact sound.recorded row there a linked
    · exact sound.recorded other member a linked
  · intro other member a linked
    obtain rfl | ⟨member, -⟩ := (moves.mem sound.distinct _).mp member
    · exact sound.ranked row there a linked
    · exact sound.ranked other member a linked

/-- An assignment that is replaced was not before. -/
theorem Assignments.Sound.not_listed (sound : s.Sound) {row : ProviderAssignment} (member : row ∈ s.rows)
    (open_ : terminalStatus row.status = false) : row.id ∉ s.order := by
  intro listed
  obtain ⟨other, there, same, replaced⟩ := sound.replaced _ listed
  have := Table.get_inj sound.distinct there member same
  subst this
  rw [replaced] at open_
  cases open_

theorem Assignments.Sound.replace (sound : s.Sound) {reason : String} {now : DateTime}
    {current replacement : ProviderAssignment} {after : List ProviderAssignment}
    (replaces : Replaces s.rows reason now current replacement after) :
    ({ s with
       rows := after
       replacements := s.replacements ++ [(current.id, replacement.id)] } : Assignments).Sound := by
  have there := Table.get_mem replaces.current_found
  have waiting := Table.get_mem replaces.replacement_found
  have mem := replaces.mem sound.distinct
  have new : current.id ∉ s.order := sound.not_listed there (by rw [replaces.current_active]; rfl)
  have apart : replacement.id ∉ s.order := sound.not_listed waiting replaces.replacement_open
  have order : (s.replacements ++ [(current.id, replacement.id)]).map Prod.fst =
      s.order ++ [current.id] := by simp [Assignments.order]
  -- a link that was there leads where it did, and its holder is not replaced earlier than before
  have earlier : ∀ row ∈ s.rows, ∀ a, row.replacedAssignmentId = some a →
      (s.order ++ [current.id]).idxOf a < (s.order ++ [current.id]).idxOf row.id := by
    intro row member a linked
    have before := sound.ranked row member a linked
    have listed : a ∈ s.order := List.mem_map.mpr ⟨_, sound.recorded row member a linked, rfl⟩
    rw [List.idxOf_append_of_mem listed]
    by_cases known : row.id ∈ s.order
    · rw [List.idxOf_append_of_mem known]
      exact before
    · rw [List.idxOf_append_of_notMem known]
      rw [List.idxOf_eq_length known] at before
      omega
  constructor
  · rw [replaces.ids]
    exact sound.distinct
  · exact sound.oneActive.replace sound.distinct replaces
  · intro row member ended
    obtain rfl | rfl | ⟨member, -⟩ := (mem row).mp member
    · exact ⟨replaces.explained, rfl, rfl⟩
    · cases ended
    · exact sound.explained row member ended
  · rw [Assignments.order, order]
    exact List.nodup_append.mpr ⟨sound.replacedOnce, List.nodup_singleton _, by
      intro a listed b last same
      rw [List.mem_singleton] at last
      rw [same, last] at listed
      exact new listed⟩
  · intro a listed
    rw [Assignments.order, order, List.mem_append, List.mem_singleton] at listed
    obtain listed | rfl := listed
    · obtain ⟨row, member, rfl, replaced⟩ := sound.replaced a listed
      refine ⟨row, (mem row).mpr (Or.inr (Or.inr ⟨member, ?_, ?_⟩)), rfl, replaced⟩
      · exact fun one => new (one ▸ listed)
      · exact fun one => apart (one ▸ listed)
    · exact ⟨_, (mem _).mpr (Or.inl rfl), rfl, rfl⟩
  · intro row member a linked
    obtain rfl | rfl | ⟨member, -⟩ := (mem row).mp member
    · exact List.mem_append_left _ (sound.recorded current there a linked)
    · cases linked
      exact List.mem_append_right _ (List.mem_singleton.mpr rfl)
    · exact List.mem_append_left _ (sound.recorded row member a linked)
  · intro row member a linked
    rw [Assignments.order, order]
    obtain rfl | rfl | ⟨member, -⟩ := (mem row).mp member
    · exact earlier current there a linked
    · cases linked
      rw [List.idxOf_append_of_notMem new, List.idxOf_append_of_notMem (by simpa using apart)]
      simp [Ne.symm replaces.apart]
    · exact earlier row member a linked

/-! ## References -/

theorem links_move (sound : s.Sound) {target : ProviderAssignmentStatus} {reason : Option String}
    {now : DateTime} {row : ProviderAssignment} {after : List ProviderAssignment}
    (moves : Moves s.rows target reason now row after) (a b : Nat) :
    Links after a b ↔ Links s.rows a b := by
  have there := Table.get_mem moves.row_found
  have mem := moves.mem sound.distinct
  constructor
  · rintro ⟨other, member, rfl, linked⟩
    obtain rfl | ⟨member, -⟩ := (mem other).mp member
    · exact ⟨row, there, rfl, linked⟩
    · exact ⟨other, member, rfl, linked⟩
  · rintro ⟨other, member, rfl, linked⟩
    by_cases one : other.id = row.id
    · have := Table.get_inj sound.distinct member there one
      subst this
      exact ⟨_, (mem _).mpr (Or.inl rfl), rfl, linked⟩
    · exact ⟨other, (mem other).mpr (Or.inr ⟨member, one⟩), rfl, linked⟩

theorem links_replace (sound : s.Sound) {reason : String} {now : DateTime}
    {current replacement : ProviderAssignment} {after : List ProviderAssignment}
    (replaces : Replaces s.rows reason now current replacement after)
    (unlinked : replacement.replacedAssignmentId = none) (a b : Nat) :
    Links after a b ↔ Links s.rows a b ∨ a = replacement.id ∧ b = current.id := by
  have there := Table.get_mem replaces.current_found
  have waiting := Table.get_mem replaces.replacement_found
  have mem := replaces.mem sound.distinct
  constructor
  · rintro ⟨other, member, rfl, linked⟩
    obtain rfl | rfl | ⟨member, -⟩ := (mem other).mp member
    · exact Or.inl ⟨current, there, rfl, linked⟩
    · cases linked
      exact Or.inr ⟨rfl, rfl⟩
    · exact Or.inl ⟨other, member, rfl, linked⟩
  · rintro (⟨other, member, rfl, linked⟩ | ⟨rfl, rfl⟩)
    · by_cases ended : other.id = current.id
      · have := Table.get_inj sound.distinct member there ended
        subst this
        exact ⟨_, (mem _).mpr (Or.inl rfl), rfl, linked⟩
      · by_cases began : other.id = replacement.id
        · have := Table.get_inj sound.distinct member waiting began
          subst this
          rw [unlinked] at linked
          cases linked
        · exact ⟨other, (mem other).mpr (Or.inr (Or.inr ⟨member, ended, began⟩)), rfl, linked⟩
    · exact ⟨_, (mem _).mpr (Or.inr (Or.inl rfl)), rfl, rfl⟩

/-! ## Runs -/

/-- What one request does to sound tables. -/
inductive Assignments.Turn (s : Assignments) (call : AssignmentRequest × DateTime) : Assignments → Prop
  | same : Turn s call s
  | create (input : AssignmentInput) :
      Turn s call { s with rows := s.rows ++ [input.row (nextId ProviderAssignment.id s.rows)] }
  | move {target : ProviderAssignmentStatus} {reason : Option String} {row : ProviderAssignment}
      {after : List ProviderAssignment} (moves : Moves s.rows target reason call.2 row after) :
      Turn s call { s with rows := after }
  | replace {reason : String} {current replacement : ProviderAssignment}
      {after : List ProviderAssignment} (asked : call.1 = .replace current.id replacement.id reason)
      (accepted : (s.handle call.2 call.1).isOk) (replaces : Replaces s.rows reason call.2 current replacement after) :
      Turn s call { s with
        rows := after
        replacements := s.replacements ++ [(current.id, replacement.id)] }

theorem Assignments.Sound.serve (sound : s.Sound) (call : AssignmentRequest × DateTime) :
    s.Turn call (s.serve call) := by
  obtain ⟨request, now⟩ := call
  rw [Assignments.serve]
  split
  · rename_i t handled
    have accepted : (s.handle now request).isOk := by rw [handled]; rfl
    cases request with
    | create input =>
      simp only [Assignments.handle, bind_ok, pure_ok] at handled
      obtain ⟨rows, created, rfl⟩ := handled
      rw [createAssignment_ok created]
      exact .create input
    | transition assignmentId target reason =>
      simp only [Assignments.handle, bind_ok, pure_ok] at handled
      obtain ⟨rows, moved, rfl⟩ := handled
      obtain ⟨row, -, -, ⟨-, rfl⟩ | ⟨-, moves⟩⟩ := transition_ok moved
      · exact .same
      · exact .move moves
    | replace currentId replacementId reason =>
      simp only [Assignments.handle, bind_ok, pure_ok] at handled
      obtain ⟨rows, replaced, rfl⟩ := handled
      obtain ⟨current, replacement, rfl, rfl, replaces⟩ :=
        replaceAssignment_ok sound.distinct sound.oneActive replaced
      exact .replace rfl accepted replaces
  · exact .same

theorem Assignments.Turn.sound {call : AssignmentRequest × DateTime} {t : Assignments}
    (turn : s.Turn call t) (sound : s.Sound) : t.Sound := by
  cases turn with
  | same => exact sound
  | create input => exact sound.create input
  | move moves => exact sound.move moves
  | replace _ _ replaces => exact sound.replace replaces

theorem Assignments.Turn.settled {call : AssignmentRequest × DateTime} {t : Assignments}
    (turn : s.Turn call t) (sound : s.Sound) : Settled s.rows t.rows := by
  intro row member ended
  cases turn with
  | same => exact ⟨row, member, rfl, rfl⟩
  | create input => exact ⟨row, List.mem_append_left _ member, rfl, rfl⟩
  | move moves =>
    refine ⟨row, (moves.mem sound.distinct _).mpr (Or.inr ⟨member, fun one => ?_⟩), rfl, rfl⟩
    have := Table.get_inj sound.distinct member (Table.get_mem moves.row_found) one
    subst this
    rw [terminal_stays moves.allowed] at ended
    cases ended
  | replace _ _ replaces =>
    refine ⟨row, (replaces.mem sound.distinct _).mpr (Or.inr (Or.inr ⟨member, ?_, ?_⟩)), rfl, rfl⟩
    · intro one
      have := Table.get_inj sound.distinct member (Table.get_mem replaces.current_found) one
      subst this
      rw [replaces.current_active] at ended
      cases ended
    · intro one
      have := Table.get_inj sound.distinct member (Table.get_mem replaces.replacement_found) one
      subst this
      rw [replaces.replacement_open] at ended
      cases ended

theorem Assignments.Turn.referenced {call : AssignmentRequest × DateTime} {t : Assignments}
    (turn : s.Turn call t) (sound : s.Sound) (unlinked : s.Unlinked call) (held : s.Referenced) :
    t.Referenced := by
  cases turn with
  | same => exact held
  | create input =>
    intro pair listed a
    rw [← held pair listed a]
    constructor
    · rintro ⟨row, member, rfl, linked⟩
      rw [List.mem_append, List.mem_singleton] at member
      obtain member | rfl := member
      · exact ⟨row, member, rfl, linked⟩
      · cases linked
    · rintro ⟨row, member, found⟩
      exact ⟨row, List.mem_append_left _ member, found⟩
  | move moves =>
    intro pair listed a
    rw [links_move sound moves]
    exact held pair listed a
  | @replace reason current replacement after asked accepted replaces =>
    have free : replacement.replacedAssignmentId = none := by
      exact unlinked accepted replacement.id (by rw [asked]; rfl) replacement
        (Table.get_mem replaces.replacement_found) rfl
    have new : current.id ∉ s.order :=
      sound.not_listed (Table.get_mem replaces.current_found) (by rw [replaces.current_active]; rfl)
    intro pair listed a
    rw [links_replace sound replaces free]
    rw [List.mem_append, List.mem_singleton] at listed
    obtain listed | rfl := listed
    · have differs : pair.1 ≠ current.id := by
        rintro same
        exact new (same ▸ List.mem_map_of_mem listed)
      simp only [differs, and_false, or_false]
      exact held pair listed a
    · have none : ¬ Links s.rows a current.id := by
        rintro ⟨row, member, rfl, linked⟩
        exact new (List.mem_map.mpr ⟨_, sound.recorded row member _ linked, rfl⟩)
      simp [none]

end Sound

/-- In every run one assignment of a property is active at most, ended ones stay
as they are and say why, and links run in no circle. A replaced assignment stays
referenced by the one that replaced it as long as no replacement is made with an
assignment that holds a link. -/
theorem provider_assignments_hold {s : Assignments} (fresh : s.Fresh) :
    (∀ t, AnyRun s t → OneActive t.rows ∧ (∀ row ∈ t.rows, row.Explained) ∧ Acyclic t.rows ∧
      ∀ u, AnyRun t u → Settled t.rows u.rows) ∧
    ∀ t, Runs.Reaches Assignments.Unlinked (fun s call t => t = s.serve call) s t → t.Referenced := by
  have step : ∀ (u : Assignments) call v, u.Sound → True → v = u.serve call → v.Sound := by
    rintro u call v sound - rfl
    exact (sound.serve call).sound sound
  constructor
  · intro t run
    have sound : t.Sound := run.invariant step fresh.sound
    refine ⟨sound.oneActive, sound.explained, sound.acyclic, fun u later => ?_⟩
    refine (later.invariant (I := fun u => u.Sound ∧ Settled t.rows u.rows) ?_ ⟨sound, ?_⟩).2
    · rintro v call w ⟨sound, before⟩ - rfl
      refine ⟨step v call _ sound trivial rfl, fun row member ended => ?_⟩
      obtain ⟨kept, there, id, status⟩ := before row member ended
      obtain ⟨last, found, same, unchanged⟩ :=
        (sound.serve call).settled sound kept there (by rw [status]; exact ended)
      exact ⟨last, found, same.trans id, unchanged.trans status⟩
    · exact fun row member _ => ⟨row, member, rfl, rfl⟩
  · intro t run
    refine (run.invariant (I := fun t => t.Sound ∧ t.Referenced) ?_ ⟨fresh.sound, ?_⟩).2
    · rintro u call v ⟨sound, held⟩ unlinked rfl
      exact ⟨step u call _ sound trivial rfl, (sound.serve call).referenced sound unlinked held⟩
    · intro pair listed
      rw [fresh.2] at listed
      cases listed

/-! ## A replacement that held a link -/

/-- One property with its routing profile. -/
def oneProperty : Assignments where
  profiles := [⟨1, "p", 7, none, none, none, none, none, none⟩]

def applicant (name : String) : AssignmentInput where
  propertyId := "p"
  publicBusinessName := name
  destinationPhone := some "1"

/-- The second replaces the first, is paused, and comes back for the third. -/
def comesBack : List (AssignmentRequest × DateTime) :=
  [(.create (applicant "a"), 1), (.create (applicant "b"), 2), (.create (applicant "c"), 3),
   (.transition 1 .pilot none, 4), (.transition 1 .active none, 5), (.replace 1 2 "price", 6),
   (.transition 2 .paused none, 7), (.transition 3 .pilot none, 8), (.transition 3 .active none, 9),
   (.replace 3 2 "price", 10)]

theorem replaced_unreferenced : oneProperty.Fresh ∧ AnyRun oneProperty (comesBack.foldl .serve oneProperty) ∧
    ¬ (comesBack.foldl .serve oneProperty).Referenced := by
  refine ⟨⟨rfl, rfl⟩, Runs.Allowed.reaches (by simp [comesBack, Runs.Allowed]), fun held => ?_⟩
  have listed : (1, 2) ∈ (comesBack.foldl .serve oneProperty).replacements := by decide +kernel
  have none : ∀ row ∈ (comesBack.foldl .serve oneProperty).rows, row.replacedAssignmentId ≠ some 1 := by
    decide +kernel
  obtain ⟨row, member, -, linked⟩ := (held _ listed 2).mpr rfl
  exact none row member linked

theorem first_replacement_referenced :
    OneActive ((comesBack.take 6).foldl .serve oneProperty).rows ∧
      ((comesBack.take 6).foldl .serve oneProperty).Referenced := by
  have held := provider_assignments_hold (s := oneProperty) ⟨rfl, rfl⟩
  have one := held.1 ((comesBack.take 6).foldl .serve oneProperty)
    (Runs.Allowed.reaches (by simp [comesBack, Runs.Allowed]))
  exact ⟨one.1, held.2 _ (Runs.Allowed.reaches (by decide +kernel))⟩

end RankRent.Properties
