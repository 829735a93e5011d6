import RankRent.Library.Runs
import RankRent.Library.Table
import RankRent.Security.Audit

/-!
# The audit chain is linear

As long as no session appends while it, or on SQLite any other, has an appended
event that is not in yet, all open work is one session's and follows the
committed rows.
-/

namespace RankRent.Audit

/-- The head a session reads is the last event appended: it holds no unflushed
event, and on SQLite no other session has an open one. -/
def Clear (s : State) : Event → Prop
  | .append session _ => (∀ entry ∈ s.waiting, entry.1 ≠ session) ∧
      (s.dialect = .sqlite → s.waiting = [] ∧
        ∀ entry ∈ s.log, entry.owner = none ∨ entry.owner = some session)
  | _ => True

/-- The sessions with open work. -/
def State.open_ (s : State) : List Nat := s.log.filterMap Inserted.owner ++ s.waiting.map Prod.fst

/-- The inserted rows, then the waiting ones. -/
def State.rows (s : State) : List AuditEvent := s.log.map Inserted.row ++ s.waiting.map Prod.snd

structure Inv (s : State) : Prop where
  single : s.waiting.length ≤ 1
  chain : Chain s.rows
  alone : ∀ a ∈ s.open_, ∀ b ∈ s.open_, a = b
  held : s.dialect = .postgresql → ∀ a ∈ s.open_, s.lock = some a
  /-- Open inserts come after the committed rows. -/
  last : s.log.Pairwise fun entry later => later.owner = none → entry.owner = none

theorem Chain.of_prefix {rows later : List AuditEvent} (chain : Chain later) (first : rows <+: later) :
    Chain rows where
  linked := chain.linked.of_prefix first
  hashed row member := chain.hashed row (first.subset member)

theorem Inv.committed {s : State} (inv : Inv s) : Chain s.committed := by
  refine inv.chain.of_prefix ?_
  have first : (s.log.filter fun entry => entry.owner = none) <+: s.log :=
    Table.filter_prefix (inv.last.imp fun later none => by simpa using later (by simpa using none))
  exact (first.map Inserted.row).trans (List.prefix_append ..)

theorem mem_open {s : State} {session : Nat} :
    session ∈ s.open_ ↔ (∃ entry ∈ s.log, entry.owner = some session) ∨
      ∃ entry ∈ s.waiting, entry.1 = session := by
  simp [State.open_]

example : (State.start .sqlite).open_ = [] := by decide +kernel

/-! ## Steps -/

/-- A session without open work has nothing to take back. -/
theorem rollback_idle {s : State} {session : Nat} (idle : session ∉ s.open_) :
    (s.rollback session).log = s.log ∧ (s.rollback session).waiting = s.waiting := by
  rw [mem_open, not_or] at idle
  constructor
  · refine List.filter_eq_self.mpr fun entry member => decide_eq_true fun owned => idle.1 ?_
    exact ⟨entry, member, owned⟩
  · refine List.filter_eq_self.mpr fun entry member => decide_eq_true fun own => idle.2 ?_
    exact ⟨entry, member, own⟩

theorem Inv.rollback {s : State} (inv : Inv s) (session : Nat) : Inv (s.rollback session) := by
  have fewer : ∀ a ∈ (s.rollback session).open_, a ∈ s.open_ ∧ a ≠ session := by
    intro a open_
    rw [mem_open] at open_
    obtain ⟨entry, member, owned⟩ | ⟨entry, member, own⟩ := open_
    · obtain ⟨member, other⟩ := List.mem_filter.mp member
      refine ⟨mem_open.mpr (Or.inl ⟨entry, member, owned⟩), ?_⟩
      rintro rfl
      simp [owned] at other
    · obtain ⟨member, other⟩ := List.mem_filter.mp member
      refine ⟨mem_open.mpr (Or.inr ⟨entry, member, own⟩), ?_⟩
      rintro rfl
      simp [own] at other
  have single : (s.rollback session).waiting.length ≤ 1 :=
    (List.length_filter_le ..).trans inv.single
  have last := inv.last.sublist (List.filter_sublist (p := fun entry => entry.owner ≠ some session))
  have alone : ∀ a ∈ (s.rollback session).open_, ∀ b ∈ (s.rollback session).open_, a = b :=
    fun a inA b inB => inv.alone a (fewer a inA).1 b (fewer b inB).1
  by_cases idle : session ∈ s.open_
  · -- all open work is the session's, so only committed rows are left
    have none : ∀ a, a ∉ (s.rollback session).open_ := fun a inA =>
      (fewer a inA).2 (inv.alone a (fewer a inA).1 session idle)
    have waiting : (s.rollback session).waiting = [] := by
      cases found : (s.rollback session).waiting with
      | nil => rfl
      | cons entry rest =>
        refine absurd (mem_open.mpr (Or.inr ⟨entry, ?_, rfl⟩)) (none entry.1)
        rw [found]
        exact List.mem_cons_self ..
    have committed : (s.rollback session).log = s.log.filter fun entry => entry.owner = Option.none := by
      refine List.filter_congr fun entry member => ?_
      cases owner : entry.owner with
      | none => simp
      | some a =>
        have same := inv.alone a (mem_open.mpr (Or.inl ⟨entry, member, owner⟩)) session idle
        simp [same]
    refine ⟨single, ?_, alone, fun _ a inA => absurd inA (none a), last⟩
    rw [State.rows, waiting, committed, List.map_nil, List.append_nil]
    exact inv.committed
  · obtain ⟨log, waiting⟩ := rollback_idle idle
    refine ⟨single, ?_, alone, ?_, last⟩
    · rw [State.rows, log, waiting]
      exact inv.chain
    · intro dialect a inA
      obtain ⟨member, other⟩ := fewer a inA
      have lock := inv.held dialect a member
      have differs : s.lock ≠ some session := by
        rw [lock]
        exact fun same => other (Option.some.inj same)
      exact (if_neg differs).trans lock

theorem flush_rows {s : State} (inv : Inv s) {session : Nat} (insertable : s.insertable session = true) :
    (s.flush session).rows = s.rows ∧ (s.flush session).open_ = s.open_ ∧
      (s.flush session).lock = s.lock ∧ (s.flush session).dialect = s.dialect ∧
      (s.flush session).waiting.length ≤ 1 ∧
      ((s.flush session).log = s.log ∨
        ∃ row, (s.flush session).log = s.log ++ [⟨row, some session⟩]) := by
  have single := inv.single
  rw [State.flush, if_pos insertable]
  cases waiting : s.waiting with
  | nil => simp [State.rows, State.open_, State.added, waiting]
  | cons entry rest =>
    have alone : rest = [] := by
      rw [waiting, List.length_cons] at single
      exact List.length_eq_zero_iff.mp (by omega)
    subst alone
    by_cases own : entry.1 = session
    · subst own
      simp [State.rows, State.open_, State.added, waiting]
    · simp [State.rows, State.open_, State.added, waiting, own]

theorem Inv.flush {s : State} (inv : Inv s) (session : Nat) : Inv (s.flush session) := by
  by_cases insertable : s.insertable session = true
  · obtain ⟨rows, open_, lock, dialect, single, log⟩ := flush_rows inv insertable
    refine ⟨single, rows ▸ inv.chain, open_ ▸ inv.alone, ?_, ?_⟩
    · rw [open_, lock, dialect]
      exact inv.held
    · obtain log | ⟨row, log⟩ := log
      · rw [log]
        exact inv.last
      · rw [log, List.pairwise_append]
        refine ⟨inv.last, List.pairwise_singleton .., fun entry _ later member none => ?_⟩
        rw [List.mem_singleton.mp member] at none
        cases none
  · rw [State.flush, if_neg insertable]
    exact inv.rollback session

/-- `COMMIT`, after the flush. -/
def State.settle (s : State) (session : Nat) : State :=
  { s with
    log := s.log.map fun entry =>
      if entry.owner = some session then { entry with owner := none } else entry
    lock := if s.lock = some session then none else s.lock }

theorem Inv.settle {s : State} (inv : Inv s) {session : Nat}
    (flushed : ∀ entry ∈ s.waiting, entry.1 ≠ session) : Inv (s.settle session) := by
  have fewer : ∀ a ∈ (s.settle session).open_, a ∈ s.open_ ∧ a ≠ session := by
    intro a open_
    rw [mem_open] at open_
    obtain ⟨entry, member, owned⟩ | ⟨entry, member, own⟩ := open_
    · obtain ⟨before, there, rfl⟩ := List.mem_map.mp member
      by_cases own : before.owner = some session
      · simp [own] at owned
      · rw [if_neg own] at owned
        refine ⟨mem_open.mpr (Or.inl ⟨before, there, owned⟩), ?_⟩
        rintro rfl
        exact own owned
    · exact ⟨mem_open.mpr (Or.inr ⟨entry, member, own⟩), own ▸ flushed entry member⟩
  have rows : (s.settle session).rows = s.rows := by
    have same : ((s.settle session).log.map Inserted.row) = s.log.map Inserted.row := by
      rw [State.settle, List.map_map]
      refine List.map_congr_left fun entry _ => ?_
      simp only [Function.comp_apply]
      split <;> rfl
    rw [State.rows, same]
    rfl
  refine ⟨inv.single, rows ▸ inv.chain,
    fun a inA b inB => inv.alone a (fewer a inA).1 b (fewer b inB).1, ?_, ?_⟩
  · intro dialect a inA
    obtain ⟨member, other⟩ := fewer a inA
    have lock := inv.held dialect a member
    have differs : s.lock ≠ some session := by
      rw [lock]
      exact fun same => other (Option.some.inj same)
    exact (if_neg differs).trans lock
  · rw [State.settle, List.pairwise_map]
    refine inv.last.imp_of_mem fun {entry later} inE inL kept none => ?_
    split
    · rfl
    · rename_i other
      by_cases own : later.owner = some session
      · -- an open entry before one of the session's is the session's too
        cases owner : entry.owner with
        | none => rfl
        | some a =>
          have same := inv.alone a (mem_open.mpr (Or.inl ⟨entry, inE, owner⟩)) session
            (mem_open.mpr (Or.inl ⟨later, inL, own⟩))
          exact absurd (same ▸ owner) other
      · rw [if_neg own] at none
        exact kept none

theorem Inv.commit {s : State} (inv : Inv s) (session : Nat) : Inv (s.commit session) := by
  refine (inv.flush session).settle fun entry member => ?_
  rw [State.flush] at member
  split at member <;> exact of_decide_eq_true (List.mem_filter.mp member).2

/-- Where an append is clear, its session sees every inserted row. -/
theorem previous_of_clear {s : State} (inv : Inv s) {session : Nat} {call : AuditCall}
    (free : s.waits (.append session call) = false) (clear : Clear s (.append session call)) :
    s.waiting = [] ∧ (∀ a ∈ s.open_, a = session) ∧
      s.previous session = (s.log.map Inserted.row).getLast? := by
  have owner : ∀ a ∈ s.open_, a = session := by
    intro a inA
    cases dialect : s.dialect with
    | postgresql =>
      have lock := inv.held dialect a inA
      simpa [State.waits, dialect, lock] using free
    | sqlite =>
      obtain ⟨none, others⟩ := clear.2 dialect
      obtain ⟨entry, member, owned⟩ | ⟨entry, member, -⟩ := mem_open.mp inA
      · have := others entry member
        rw [owned] at this
        simpa using this
      · rw [none] at member
        cases member
  refine ⟨?_, owner, ?_⟩
  · cases waiting : s.waiting with
    | nil => rfl
    | cons entry rest =>
      have member : entry ∈ s.waiting := by
        rw [waiting]
        exact List.mem_cons_self ..
      exact absurd (owner entry.1 (mem_open.mpr (Or.inr ⟨entry, member, rfl⟩))) (clear.1 entry member)
  · have all : (s.log.filter fun entry => entry.owner = none || entry.owner = some session) = s.log := by
      refine List.filter_eq_self.mpr fun entry member => ?_
      cases owned : entry.owner with
      | none => simp
      | some a => simp [owner a (mem_open.mpr (Or.inl ⟨entry, member, owned⟩))]
    rw [State.previous, all]

theorem Inv.append {s : State} (inv : Inv s) {session : Nat} {call : AuditCall}
    (free : s.waits (.append session call) = false) (clear : Clear s (.append session call)) :
    Inv (s.append session call) := by
  obtain ⟨waiting, owner, previous⟩ := previous_of_clear inv free clear
  have rows : (s.append session call).rows = s.rows ++ [call.row (s.previous session)] := by
    simp [State.rows, State.append, waiting]
  have all : ∀ a ∈ (s.append session call).open_, a = session := by
    intro a inA
    obtain ⟨entry, member, owned⟩ | ⟨entry, member, own⟩ := mem_open.mp inA
    · exact owner a (mem_open.mpr (Or.inl ⟨entry, member, owned⟩))
    · rw [State.append, waiting, List.nil_append, List.mem_singleton] at member
      rw [← own, member]
  refine ⟨by simp [State.append, waiting], ?_, fun a inA b inB => (all a inA).trans (all b inB).symm,
    ?_, inv.last⟩
  · rw [rows]
    constructor
    · refine inv.chain.linked.snoc ?_
      rw [previous, State.rows, waiting, List.map_nil, List.append_nil]
      rfl
    · intro row member
      obtain old | new := List.mem_append.mp member
      · exact inv.chain.hashed row old
      · rw [List.mem_singleton.mp new]
        rfl
  · intro dialect a inA
    rw [all a inA]
    have postgresql : s.dialect = .postgresql := dialect
    simp [State.append, postgresql]

theorem Inv.step {s t : State} {event : Event} (inv : Inv s) (clear : Clear s event)
    (step : Step s event t) : Inv t := by
  obtain ⟨free, rfl⟩ := step
  cases event with
  | append session call => exact inv.append free clear
  | flush session => exact inv.flush session
  | commit session => exact inv.commit session
  | rollback session => exact inv.rollback session

theorem Inv.start (dialect : Dialect) : Inv (State.start dialect) where
  single := by simp [State.start]
  chain := ⟨trivial, by simp [State.rows, State.start]⟩
  alone := by simp [State.open_, State.start]
  held := by simp [State.open_, State.start]
  last := List.Pairwise.nil

namespace TwoEvents

def event (eventType : String) (now : DateTime) : AuditCall where
  eventType := eventType
  actor := ⟨"admin-1", .admin⟩
  targetType := "scan_run"
  targetId := some "12"
  requestId := some "request-1"
  metadata := none
  now := now

def created : AuditCall := event "scan.create" 1767225600

def costConfirmed : AuditCall := event "scan.cost_confirmed" 1767225601

def first : AuditEvent := created.row none

/-- The row of the second event when the first is not yet flushed. -/
def second : AuditEvent := costConfirmed.row none

def events : List Event := [.append 0 created, .append 0 costConfirmed, .commit 0]

example : first.previousHash = second.previousHash := by decide +kernel

/-- The row of the second event in a session of its own, after the first. -/
def linked : AuditEvent := costConfirmed.row (some first)

end TwoEvents

end RankRent.Audit
