import Mathlib.Algebra.Order.Ring.Rat
import Mathlib.Tactic.Linarith
import RankRent.Library.Runs
import RankRent.Library.Table

/-!
# The registry lock

`_registry_lock`, `_remove_stale_lock` and `_release_registry_lock` of
`public_data/store.py`, one file-system call after the other, for any processes
on any hosts. A waiting process judges a lock by its age and its owner, and
later renames whatever is at the path.
-/

namespace RankRent.PublicData

/-- `stale_lock_seconds`, which the constructor wants positive. -/
structure LockTimings where
  staleLockSeconds : ℚ
  positive : 0 < staleLockSeconds

/-- `owner.json`. -/
structure LockOwner where
  token : Nat
  pid : Nat
  hostname : String
  deriving DecidableEq

/-- A directory at the path of the lock; each one that is made is another. -/
structure LockDirectory where
  inode : Nat
  mtime : ℚ
  owner : Option LockOwner := none
  deriving DecidableEq

inductive Phase
  | idle
  /-- About to make the directory. -/
  | waiting
  /-- The directory was there. -/
  | contended
  /-- The directory was old enough. -/
  | statted
  /-- And its owner not alive here. -/
  | judged
  /-- About to try again, or to time out. -/
  | polling
  /-- The directory is made, and has no owner yet. -/
  | made
  /-- The owner could not be written. -/
  | failed
  /-- In the critical section. -/
  | inside
  | leaving
  /-- The owner is this process. -/
  | removing
  | crashed
  deriving DecidableEq

structure Process where
  hostname : String
  pid : Nat
  phase : Phase := .idle
  token : Nat := 0
  /-- The directory it made last, and when it last changed it. -/
  inode : Nat := 0
  since : ℚ := 0
  deriving DecidableEq

structure LockState where
  now : ℚ := 0
  lock : Option LockDirectory := none
  processes : List Process
  tokens : Nat := 0
  inodes : Nat := 0

inductive Move
  | start | mkdir | stat
  /-- Whether the owner's pid is another process's by now. -/
  | readOwner (taken : Bool)
  | rename | retry | timeOut | writeOwner | failWrite | cleanUp | leave | readToken | remove | crash
  deriving DecidableEq

inductive Action
  | tick (seconds : ℚ)
  | act (i : Nat) (move : Move)

namespace LockState

def put (s : LockState) (i : Nat) (p : Process) : LockState :=
  { s with processes := s.processes.set i p }

/-- `_pid_is_alive`, on the host of the process. -/
def pidIsAlive (s : LockState) (hostname : String) (pid : Nat) : Bool :=
  s.processes.any fun q => q.hostname = hostname && q.pid = pid && q.phase ≠ .crashed

/-- The owner is a live process of the same host. -/
def ownerIsAlive (s : LockState) (p : Process) (taken : Bool) : Bool :=
  match s.lock.bind LockDirectory.owner with
  | some owner => owner.hostname = p.hostname && (s.pidIsAlive owner.hostname owner.pid || taken)
  | none => false

/-- One step of a process. -/
def move (timings : LockTimings) (s : LockState) (i : Nat) (p : Process) (m : Move) : LockState :=
  match m, p.phase with
  | .start, .idle => { s.put i { p with phase := .waiting, token := s.tokens } with tokens := s.tokens + 1 }
  | .mkdir, .waiting => match s.lock with
    | none =>
      { s.put i { p with phase := .made, inode := s.inodes, since := s.now } with
        lock := some { inode := s.inodes, mtime := s.now }
        inodes := s.inodes + 1 }
    | some _ => s.put i { p with phase := .contended }
  | .stat, .contended => match s.lock with
    | none => s.put i { p with phase := .polling }
    | some d =>
      if s.now - d.mtime < timings.staleLockSeconds then s.put i { p with phase := .polling }
      else s.put i { p with phase := .statted }
  | .readOwner taken, .statted =>
    if s.ownerIsAlive p taken then s.put i { p with phase := .polling }
    else s.put i { p with phase := .judged }
  | .rename, .judged => { s.put i { p with phase := .polling } with lock := none }
  | .retry, .polling => s.put i { p with phase := .waiting }
  | .timeOut, .polling => s.put i { p with phase := .idle }
  | .writeOwner, .made => match s.lock with
    | none => s.put i { p with phase := .failed }
    | some d =>
      { s.put i { p with phase := .inside, since := s.now } with
        lock := some { d with
          owner := some ⟨p.token, p.pid, p.hostname⟩
          -- a new entry changes the directory, a new content of the file does not
          mtime := if d.owner.isSome then d.mtime else s.now } }
  | .failWrite, .made => s.put i { p with phase := .failed }
  | .cleanUp, .failed => { s.put i { p with phase := .idle } with lock := none }
  | .leave, .inside => s.put i { p with phase := .leaving }
  | .readToken, .leaving =>
    if (s.lock.bind LockDirectory.owner).map LockOwner.token = some p.token then
      s.put i { p with phase := .removing }
    else s.put i { p with phase := .idle }
  | .remove, .removing => { s.put i { p with phase := .idle } with lock := none }
  | .crash, _ => s.put i { p with phase := .crashed }
  | _, _ => s

def next (timings : LockTimings) (s : LockState) : Action → LockState
  | .tick seconds => { s with now := s.now + max 0 seconds }
  | .act i m => match s.processes[i]? with
    | some p => s.move timings i p m
    | none => s

end LockState

abbrev LockState.Step (timings : LockTimings) (s : LockState) (a : Action) (s' : LockState) : Prop :=
  s' = s.next timings a

/-! ## What is to hold -/

/-- A live process that made a directory and is not done with it. -/
def Phase.holds : Phase → Bool
  | .made | .failed | .inside | .leaving | .removing => true
  | _ => false

/-- One process is in the critical section. -/
def LockState.Exclusive (s : LockState) : Prop :=
  ∀ (i j : Nat) (p q : Process), s.processes[i]? = some p → s.processes[j]? = some q →
    p.phase = .inside → q.phase = .inside → i = j

/-- A step takes no directory away that another live process holds. -/
def LockState.Spares (timings : LockTimings) (s : LockState) (i : Nat) (m : Move) : Prop :=
  ∀ d ∈ s.lock, (∀ d' ∈ (s.next timings (.act i m)).lock, d'.inode ≠ d.inode) →
    ∀ (j : Nat) (q : Process), s.processes[j]? = some q → q.phase.holds = true → q.inode = d.inode → i = j

/-- Who survives leaves the critical section before `stale_lock_seconds`. -/
def Prompt (timings : LockTimings) (s : LockState) : Action → Prop
  | .tick seconds => ∀ p ∈ s.processes, p.phase = .inside →
      s.now + max 0 seconds < p.since + timings.staleLockSeconds
  | .act _ _ => True

/-- So does a live process that is about to write its owner, or to take its own
lock away. -/
def Brisk (timings : LockTimings) (s : LockState) : Action → Prop
  | .tick seconds => ∀ p ∈ s.processes, p.phase.holds = true → p.phase ≠ .inside →
      s.now + max 0 seconds < p.since + timings.staleLockSeconds
  | .act _ _ => True

/-- `_remove_stale_lock` takes a directory that is old enough then, not only when
it was looked at. -/
def StillStale (timings : LockTimings) (s : LockState) : Action → Prop
  | .act i .rename => ∀ p ∈ s.processes[i]?, p.phase = .judged → ∀ d ∈ s.lock,
      timings.staleLockSeconds ≤ s.now - d.mtime
  | _ => True

instance (timings : LockTimings) (s : LockState) : ∀ a, Decidable (Prompt timings s a)
  | .tick _ => inferInstanceAs (Decidable (∀ p ∈ s.processes, _ → _))
  | .act _ _ => inferInstanceAs (Decidable True)

instance (timings : LockTimings) (s : LockState) : ∀ a, Decidable (Brisk timings s a)
  | .tick _ => inferInstanceAs (Decidable (∀ p ∈ s.processes, _ → _ → _))
  | .act _ _ => inferInstanceAs (Decidable True)

instance (timings : LockTimings) (s : LockState) (a : Action) : Decidable (StillStale timings s a) := by
  unfold StillStale
  split <;> infer_instance

/-- No process has started yet, and there is no lock. -/
def LockState.Fresh (s : LockState) : Prop := s.lock = none ∧ ∀ p ∈ s.processes, p.phase = .idle

/-! ## Invariant -/

structure LockState.Sound (timings : LockTimings) (s : LockState) : Prop where
  /-- Who holds a directory made the one at the path. -/
  held : ∀ (i : Nat) (p : Process), s.processes[i]? = some p → p.phase.holds = true →
    ∃ d, s.lock = some d ∧ d.inode = p.inode ∧ p.since ≤ d.mtime ∧ (p.phase = .made → d.owner = none)
  alone : ∀ (i j : Nat) (p q : Process), s.processes[i]? = some p → s.processes[j]? = some q →
    p.phase.holds = true → q.phase.holds = true → i = j
  inTime : ∀ (i : Nat) (p : Process), s.processes[i]? = some p → p.phase.holds = true →
    s.now < p.since + timings.staleLockSeconds

namespace LockState
variable {timings : LockTimings} {s s' : LockState} {i j : Nat} {p p' q : Process}

theorem Fresh.sound (fresh : s.Fresh) : s.Sound timings := by
  have nobody : ∀ (i : Nat) (p : Process), s.processes[i]? = some p → p.phase.holds ≠ true := by
    intro i p found holds
    rw [fresh.2 p (List.mem_of_getElem? found)] at holds
    cases holds
  constructor
  · intro i p found holds
    exact absurd holds (nobody i p found)
  · intro i j p q found _ holds
    exact absurd holds (nobody i p found)
  · intro i p found holds
    exact absurd holds (nobody i p found)

theorem Sound.exclusive (sound : s.Sound timings) : s.Exclusive := by
  intro i j p q first second inside inside'
  exact sound.alone i j p q first second (by rw [inside]; rfl) (by rw [inside']; rfl)

/-- A directory that is old enough has no live holder. -/
theorem Sound.stale_abandoned (sound : s.Sound timings) {d : LockDirectory} (there : s.lock = some d)
    (stale : timings.staleLockSeconds ≤ s.now - d.mtime) (found : s.processes[j]? = some q) :
    q.phase.holds = false := by
  by_contra holds
  rw [Bool.not_eq_false] at holds
  obtain ⟨d', there', -, since, -⟩ := sound.held j q found holds
  obtain rfl : d = d' := Option.some.inj (there.symm.trans there')
  linarith [sound.inTime j q found holds]

/-! ## Steps -/

/-- The process changes, and perhaps the directory. -/
structure Changes (s s' : LockState) (i : Nat) (p' : Process) : Prop where
  processes : s'.processes = s.processes.set i p'
  now : s'.now = s.now

theorem Changes.cases (changes : Changes s s' i p') (found : s'.processes[j]? = some q) :
    j = i ∧ q = p' ∨ j ≠ i ∧ s.processes[j]? = some q := by
  rw [changes.processes] at found
  obtain ⟨same, -, rfl⟩ | ⟨differs, there⟩ := Table.getElem?_set_cases found
  · exact Or.inl ⟨same.symm, rfl⟩
  · exact Or.inr ⟨differs.symm, there⟩

/-- No other process holds a directory. -/
def Others (s : LockState) (i : Nat) : Prop :=
  ∀ (j : Nat) (q : Process), s.processes[j]? = some q → j ≠ i → q.phase.holds = false

theorem Sound.others (sound : s.Sound timings) (found : s.processes[i]? = some p)
    (holds : p.phase.holds = true) : s.Others i := by
  intro j q there differs
  by_contra holds'
  rw [Bool.not_eq_false] at holds'
  exact differs (sound.alone j i q p there found holds' holds)

theorem Sound.others_none (sound : s.Sound timings) (none : s.lock = none) : s.Others i := by
  intro j q there _
  by_contra holds
  rw [Bool.not_eq_false] at holds
  obtain ⟨d, there', -⟩ := sound.held j q there holds
  rw [none] at there'
  cases there'

/-- A process that holds nothing after the step leaves the directory, or takes
away one that no other process holds. -/
theorem Sound.letsGo (sound : s.Sound timings) (changes : Changes s s' i p')
    (free : p'.phase.holds = false) (left : s'.lock = s.lock ∨ s.Others i) : s'.Sound timings := by
  have before : ∀ (j : Nat) (q : Process), s'.processes[j]? = some q → q.phase.holds = true →
      j ≠ i ∧ s.processes[j]? = some q := by
    intro j q found holds
    obtain ⟨-, rfl⟩ | there := changes.cases found
    · rw [free] at holds
      cases holds
    · exact there
  constructor
  · intro j q found holds
    obtain ⟨differs, there⟩ := before j q found holds
    obtain same | others := left
    · rw [same]
      exact sound.held j q there holds
    · rw [others j q there differs] at holds
      cases holds
  · intro j k q r found found' holds holds'
    exact sound.alone j k q r (before j q found holds).2 (before k r found' holds').2 holds holds'
  · intro j q found holds
    rw [changes.now]
    exact sound.inTime j q (before j q found holds).2 holds

/-- A process that holds the directory after the step made it, in time, and is
the only one. -/
theorem takes (changes : Changes s s' i p') (others : s.Others i)
    {d : LockDirectory} (there : s'.lock = some d) (own : d.inode = p'.inode)
    (since : p'.since ≤ d.mtime) (unowned : p'.phase = .made → d.owner = none)
    (time : s.now < p'.since + timings.staleLockSeconds) : s'.Sound timings := by
  have only : ∀ (j : Nat) (q : Process), s'.processes[j]? = some q → q.phase.holds = true →
      j = i ∧ q = p' := by
    intro j q found holds
    obtain same | ⟨differs, there⟩ := changes.cases found
    · exact same
    · rw [others j q there differs] at holds
      cases holds
  constructor
  · intro j q found holds
    obtain ⟨-, rfl⟩ := only j q found holds
    exact ⟨d, there, own, since, unowned⟩
  · intro j k q r found found' holds holds'
    rw [(only j q found holds).1, (only k r found' holds').1]
  · intro j q found holds
    obtain ⟨-, rfl⟩ := only j q found holds
    rw [changes.now]
    exact time

theorem Sound.keeps (sound : s.Sound timings) (found : s.processes[i]? = some p)
    (holds : p.phase.holds = true) (changes : Changes s s' i p') (lock : s'.lock = s.lock)
    (same : p'.inode = p.inode ∧ p'.since = p.since) (past : p'.phase ≠ .made) : s'.Sound timings := by
  obtain ⟨d, there, own, since, -⟩ := sound.held i p found holds
  have time := sound.inTime i p found holds
  rw [← same.1] at own
  rw [← same.2] at since time
  apply takes changes (sound.others found holds) (lock.trans there) own since _ time
  intro made
  exact absurd made past

/-- What a step can do to the directory. -/
inductive Effect (s : LockState) (i : Nat) (p : Process) (m : Move) (s' : LockState) : Prop
  | nothing (same : s' = s)
  | outside (p' : Process) (changes : Changes s s' i p') (free : p'.phase.holds = false)
      (lock : s'.lock = s.lock)
  | makes (p' : Process) (changes : Changes s s' i p') (none : s.lock = none)
      (there : s'.lock = some { inode := p'.inode, mtime := s.now }) (since : p'.since = s.now)
  | enters (d : LockDirectory) (p' : Process) (changes : Changes s s' i p') (found : s.lock = some d)
      (made : p.phase = .made) (past : p'.phase ≠ .made) (inode : p'.inode = p.inode)
      (since : p'.since = s.now) (owner : Option LockOwner)
      (there : s'.lock = some { d with
        owner := owner, mtime := if d.owner.isSome then d.mtime else s.now })
  | goesOn (p' : Process) (changes : Changes s s' i p') (holds : p.phase.holds = true)
      (lock : s'.lock = s.lock) (same : p'.inode = p.inode ∧ p'.since = p.since)
      (past : p'.phase ≠ .made)
  | takesAway (p' : Process) (changes : Changes s s' i p') (free : p'.phase.holds = false)
      (lock : s'.lock = none) (why : p.phase.holds = true ∨ m = .rename ∧ p.phase = .judged)

/-- Every step does one of these. -/
theorem move_effect (timings : LockTimings) (s : LockState) (i : Nat) (p : Process) (m : Move) :
    Effect s i p m (s.move timings i p m) := by
  unfold LockState.move
  split
  case h_1 => exact .outside _ ⟨rfl, rfl⟩ rfl rfl
  case h_2 =>
    split
    case h_1 none => exact .makes _ ⟨rfl, rfl⟩ none rfl rfl
    case h_2 => exact .outside _ ⟨rfl, rfl⟩ rfl rfl
  case h_3 =>
    split
    case h_1 => exact .outside _ ⟨rfl, rfl⟩ rfl rfl
    case h_2 => split <;> exact .outside _ ⟨rfl, rfl⟩ rfl rfl
  case h_4 => split <;> exact .outside _ ⟨rfl, rfl⟩ rfl rfl
  case h_5 judged => exact .takesAway _ ⟨rfl, rfl⟩ rfl rfl (Or.inr ⟨rfl, judged⟩)
  case h_6 => exact .outside _ ⟨rfl, rfl⟩ rfl rfl
  case h_7 => exact .outside _ ⟨rfl, rfl⟩ rfl rfl
  case h_8 made =>
    split
    case h_1 none => exact .goesOn _ ⟨rfl, rfl⟩ (by rw [made]; rfl) rfl ⟨rfl, rfl⟩ (by simp)
    case h_2 d found => exact .enters d _ ⟨rfl, rfl⟩ found made (by simp) rfl rfl _ rfl
  case h_9 made => exact .goesOn _ ⟨rfl, rfl⟩ (by rw [made]; rfl) rfl ⟨rfl, rfl⟩ (by simp)
  case h_10 failed => exact .takesAway _ ⟨rfl, rfl⟩ rfl rfl (Or.inl (by rw [failed]; rfl))
  case h_11 inside => exact .goesOn _ ⟨rfl, rfl⟩ (by rw [inside]; rfl) rfl ⟨rfl, rfl⟩ (by simp)
  case h_12 leaving =>
    split
    · exact .goesOn _ ⟨rfl, rfl⟩ (by rw [leaving]; rfl) rfl ⟨rfl, rfl⟩ (by simp)
    · exact .outside _ ⟨rfl, rfl⟩ rfl rfl
  case h_13 removing => exact .takesAway _ ⟨rfl, rfl⟩ rfl rfl (Or.inl (by rw [removing]; rfl))
  case h_14 => exact .outside _ ⟨rfl, rfl⟩ rfl rfl
  case h_15 => exact .nothing rfl

/-- A directory is renamed under a condition only when no live process holds it. -/
theorem Sound.others_takesAway (sound : s.Sound timings) (found : s.processes[i]? = some p) {m : Move}
    (stale : StillStale timings s (.act i m))
    (why : p.phase.holds = true ∨ m = .rename ∧ p.phase = .judged) : s.Others i := by
  obtain holds | ⟨rfl, judged⟩ := why
  · exact sound.others found holds
  · cases there : s.lock with
    | none => exact sound.others_none there
    | some d =>
      intro j q found' _
      exact sound.stale_abandoned there (stale p found judged d there) found'

theorem Sound.move (sound : s.Sound timings) (found : s.processes[i]? = some p) {m : Move}
    (stale : StillStale timings s (.act i m)) : (s.move timings i p m).Sound timings := by
  have positive := timings.positive
  cases move_effect timings s i p m with
  | nothing same =>
    rw [same]
    exact sound
  | outside p' changes free lock => exact sound.letsGo changes free (Or.inl lock)
  | makes p' changes none there since =>
    apply takes changes (sound.others_none none) there rfl
    · exact le_of_eq since
    · intro _
      rfl
    · rw [since]
      linarith
  | enters d p' changes found' made past inode since owner there =>
    have holds : p.phase.holds = true := by rw [made]; rfl
    obtain ⟨d', there', own, -, unowned⟩ := sound.held i p found holds
    obtain rfl : d = d' := Option.some.inj (found'.symm.trans there')
    rw [unowned made] at there
    apply takes changes (sound.others found holds) there (own.trans inode.symm)
    · exact le_of_eq since
    · intro made'
      exact absurd made' past
    · rw [since]
      linarith
  | goesOn p' changes holds lock same past => exact sound.keeps found holds changes lock same past
  | takesAway p' changes free lock why =>
    exact sound.letsGo changes free (Or.inr (sound.others_takesAway found stale why))

theorem Sound.tick (sound : s.Sound timings) {seconds : ℚ} (prompt : Prompt timings s (.tick seconds))
    (brisk : Brisk timings s (.tick seconds)) : (s.next timings (.tick seconds)).Sound timings := by
  constructor
  · exact sound.held
  · exact sound.alone
  · intro i p found holds
    by_cases inside : p.phase = .inside
    · exact prompt p (List.mem_of_getElem? found) inside
    · exact brisk p (List.mem_of_getElem? found) holds inside

/-- Only a process that takes the directory away removes one. -/
theorem Sound.spares (sound : s.Sound timings) {m : Move} (stale : StillStale timings s (.act i m)) :
    s.Spares timings i m := by
  intro d there gone j q found' holds own
  by_contra differs
  cases found : s.processes[i]? with
  | none =>
    simp only [next, found] at gone
    exact gone d there rfl
  | some p =>
    simp only [next, found] at gone
    cases move_effect timings s i p m with
    | nothing same =>
      rw [same] at gone
      exact gone d there rfl
    | outside p' changes free lock => exact gone d (lock.trans there) rfl
    | makes p' changes none =>
      rw [none] at there
      cases there
    | enters d' p' changes same made past inode since owner there' =>
      obtain rfl : d = d' := Option.some.inj (there.symm.trans same)
      exact gone _ there' rfl
    | goesOn p' changes holds' lock => exact gone d (lock.trans there) rfl
    | takesAway p' changes free lock why =>
      have others := sound.others_takesAway found stale why j q found' (Ne.symm differs)
      rw [others] at holds
      cases holds

end LockState

/-- The conditions together. -/
def Careful (timings : LockTimings) (s : LockState) (a : Action) : Prop :=
  Prompt timings s a ∧ Brisk timings s a ∧ StillStale timings s a

instance (timings : LockTimings) (s : LockState) (a : Action) : Decidable (Careful timings s a) :=
  inferInstanceAs (Decidable (_ ∧ _ ∧ _))

namespace LockState
variable {timings : LockTimings} {s s' : LockState} {a : Action}

theorem Sound.next (sound : s.Sound timings) (careful : Careful timings s a) :
    (s.next timings a).Sound timings := by
  cases a with
  | tick seconds => exact sound.tick careful.1 careful.2.1
  | act i m =>
    cases found : s.processes[i]? with
    | none =>
      simp only [LockState.next, found]
      exact sound
    | some p =>
      simp only [LockState.next, found]
      exact sound.move found careful.2.2

theorem Sound.run (run : Runs.Reaches (Careful timings) (LockState.Step timings) s s')
    (sound : s.Sound timings) : s'.Sound timings := by
  apply run.invariant _ sound
  rintro s a _ sound careful rfl
  exact sound.next careful

end LockState

/-- In every run whose processes are brisk and take only a directory that is
still stale, one process is in the critical section, and no step removes a lock
of another live process. -/
theorem registry_lock_exclusive (timings : LockTimings) (s s' : LockState) (fresh : s.Fresh)
    (run : Runs.Reaches (Careful timings) (LockState.Step timings) s s') :
    s'.Exclusive ∧ ∀ (i : Nat) (m : Move), Careful timings s' (.act i m) → s'.Spares timings i m := by
  have sound : s'.Sound timings := fresh.sound.run run
  constructor
  · exact sound.exclusive
  · intro i m careful
    exact sound.spares careful.2.2

/-- Three processes of one host. -/
def threeProcesses : LockState where
  processes := [⟨"host", 1, .idle, 0, 0, 0⟩, ⟨"host", 2, .idle, 0, 0, 0⟩, ⟨"host", 3, .idle, 0, 0, 0⟩]

/-- `stale_lock_seconds`, as the store has it by default. -/
def defaultTimings : LockTimings := ⟨300, by norm_num⟩

/-- Enters when there is no lock. -/
def enter (i : Nat) : List Action := [.act i .start, .act i .mkdir, .act i .writeOwner]

/-- Finds the lock stale. -/
def judge (i : Nat) : List Action :=
  [.act i .start, .act i .mkdir, .act i .stat, .act i (.readOwner false)]

/-- Takes the lock away and enters. -/
def takeOver (i : Nat) : List Action :=
  [.act i .rename, .act i .retry, .act i .mkdir, .act i .writeOwner]

/-- One process crashes in the critical section, and its lock grows old. -/
def crashed : List Action := enter 0 ++ [.act 0 .crash, .tick 300]

theorem registry_lock_exclusive_takeOver :
    (LockState.Exclusive
      ((crashed ++ judge 1 ++ takeOver 1).foldl (LockState.next defaultTimings) threeProcesses)) :=
  (registry_lock_exclusive defaultTimings threeProcesses _ ⟨rfl, by simp [threeProcesses]⟩
    (Runs.Allowed.reaches (by decide +kernel))).1

theorem LockState.not_exclusive {s : LockState} (i j : Nat) (differs : i ≠ j)
    (first : s.processes[i]?.map Process.phase = some .inside)
    (second : s.processes[j]?.map Process.phase = some .inside) : ¬ s.Exclusive := by
  intro exclusive
  obtain ⟨p, found, inside⟩ := Option.map_eq_some_iff.mp first
  obtain ⟨q, found', inside'⟩ := Option.map_eq_some_iff.mp second
  exact differs (exclusive i j p q found found' inside inside')

theorem LockState.not_spares {timings : LockTimings} {s : LockState} {m : Move} (i j : Nat)
    (differs : i ≠ j) (there : s.lock.isSome) (gone : (s.next timings (.act i m)).lock = none)
    (holds : s.processes[j]?.map (fun q => q.phase.holds) = some true)
    (own : s.processes[j]?.map Process.inode = s.lock.map LockDirectory.inode) :
    ¬ s.Spares timings i m := by
  intro spares
  obtain ⟨d, found⟩ := Option.isSome_iff_exists.mp there
  obtain ⟨q, found', live⟩ := Option.map_eq_some_iff.mp holds
  rw [found, found'] at own
  exact differs (spares d found (by simp [gone]) j q found' live (Option.some.inj own))

/-- Two processes find the lock of a crashed one stale. The second takes away the
one that the first has made meanwhile, and both are in the critical section. -/
theorem registry_lock_taken_twice :
    ∃ (timings : LockTimings) (s s' s'' : LockState), s.Fresh ∧
      Runs.Reaches (fun s a => Prompt timings s a ∧ Brisk timings s a)
        (LockState.Step timings) s s' ∧ ¬ s'.Spares timings 2 .rename ∧
      Runs.Reaches (fun s a => Prompt timings s a ∧ Brisk timings s a)
        (LockState.Step timings) s' s'' ∧ ¬ s''.Exclusive := by
  have first : Runs.Reaches (fun s a => Prompt defaultTimings s a ∧ Brisk defaultTimings s a)
      (LockState.Step defaultTimings) threeProcesses
      ((crashed ++ judge 1 ++ judge 2 ++ takeOver 1).foldl (LockState.next defaultTimings)
        threeProcesses) :=
    Runs.Allowed.reaches (by decide +kernel)
  have second : Runs.Reaches (fun s a => Prompt defaultTimings s a ∧ Brisk defaultTimings s a)
      (LockState.Step defaultTimings) _
      ((takeOver 2).foldl (LockState.next defaultTimings)
        ((crashed ++ judge 1 ++ judge 2 ++ takeOver 1).foldl (LockState.next defaultTimings)
          threeProcesses)) :=
    Runs.Allowed.reaches (by decide +kernel)
  have taken : ¬ LockState.Spares defaultTimings ((crashed ++ judge 1 ++ judge 2 ++ takeOver 1).foldl
      (LockState.next defaultTimings) threeProcesses) 2 .rename :=
    LockState.not_spares 2 1 (by decide) (by decide +kernel) (by decide +kernel) (by decide +kernel)
      (by decide +kernel)
  exact ⟨defaultTimings, threeProcesses, _, _, ⟨rfl, by simp [threeProcesses]⟩, first, taken, second,
    LockState.not_exclusive 1 2 (by decide) (by decide +kernel) (by decide +kernel)⟩

/-- A process that is slow to write its owner loses its directory, writes into
the next one, and enters. -/
theorem late_owner_enters :
    ∃ (timings : LockTimings) (s s' : LockState), s.Fresh ∧
      Runs.Reaches (fun s a => Prompt timings s a ∧ StillStale timings s a)
        (LockState.Step timings) s s' ∧ ¬ s'.Exclusive := by
  have run : Runs.Reaches (fun s a => Prompt defaultTimings s a ∧ StillStale defaultTimings s a)
      (LockState.Step defaultTimings) threeProcesses
      (([Action.act 0 .start, .act 0 .mkdir, .tick 300] ++ judge 1 ++ takeOver 1 ++
        [Action.act 0 .writeOwner]).foldl (LockState.next defaultTimings) threeProcesses) :=
    Runs.Allowed.reaches (by decide +kernel)
  exact ⟨defaultTimings, threeProcesses, _, ⟨rfl, by simp [threeProcesses]⟩, run,
    LockState.not_exclusive 0 1 (by decide) (by decide +kernel) (by decide +kernel)⟩

end RankRent.PublicData
