import RankRent.Library.Checks

/-!
# Calls that write before they fail

Programs in `EStateM`, read at a state: what was written before a failure stays.
-/

namespace Effects
universe u
variable {ε σ α β : Type u}

@[simp] theorem bind_at (x : EStateM ε σ α) (f : α → EStateM ε σ β) (s : σ) :
    (x >>= f) s = match x s with
      | .ok a after => f a after
      | .error e after => .error e after := by
  change EStateM.bind x f s = _
  rw [EStateM.bind]
  cases x s <;> rfl

@[simp] theorem pure_at (a : α) (s : σ) : (pure a : EStateM ε σ α) s = .ok a s := rfl

@[simp] theorem throw_at (e : ε) (s : σ) : (throw e : EStateM ε σ α) s = .error e s := rfl

@[simp] theorem get_at (s : σ) : (get : EStateM ε σ σ) s = .ok s s := rfl

@[simp] theorem modify_at (f : σ → σ) (s : σ) : (modify f : EStateM ε σ PUnit) s = .ok ⟨⟩ (f s) := rfl

theorem ok_bind (a : α) (f : α → Except ε β) : (Except.ok a >>= f) = f a := rfl

theorem error_bind (e : ε) (f : α → Except ε β) : ((.error e : Except ε α) >>= f) = .error e := rfl

/-- What a lookup in the state found, or the failure. -/
def lookup (find : σ → Option α) (e : ε) : EStateM ε σ α := fun s =>
  match find s with
  | some a => .ok a s
  | none => .error e s

theorem lookup_some {find : σ → Option α} {s : σ} {a : α} (there : find s = some a) (e : ε) :
    lookup find e s = .ok a s := by
  rw [lookup, there]

theorem lookup_none {find : σ → Option α} {s : σ} (absent : find s = none) (e : ε) :
    lookup find e s = .error e s := by
  rw [lookup, absent]

/-- Raise where the condition does not hold. -/
def check (condition : Prop) [Decidable condition] (e : ε) : EStateM ε σ PUnit := fun s =>
  if condition then .ok ⟨⟩ s else .error e s

theorem check_pos {condition : Prop} [Decidable condition] (holds : condition) (e : ε) (s : σ) :
    check condition e s = .ok ⟨⟩ s := if_pos holds

theorem check_neg {condition : Prop} [Decidable condition] (fails : ¬condition) (e : ε) (s : σ) :
    check condition e s = .error e s := if_neg fails

/-- A call that makes all its checks before it writes. -/
def attempt (operation : σ → Except ε σ) : EStateM ε σ PUnit := fun s =>
  match operation s with
  | .ok after => .ok ⟨⟩ after
  | .error e => .error e s

variable {operation : σ → Except ε σ} {s after : σ} {e : ε}

theorem attempt_ok (done : operation s = .ok after) : attempt operation s = .ok ⟨⟩ after := by
  rw [attempt, done]

theorem attempt_error (refused : operation s = .error e) : attempt operation s = .error e s := by
  rw [attempt, refused]

end Effects

/-!
## Programs that can be interrupted

Programs in `EStateM` whose accesses to the outside can fail, and can be the last
thing that a process does. The world carries what happens at the accesses to come,
so a statement about every world is one about every point of interruption.
-/

namespace Interrupts
variable {ε σ α β : Type}

/-- What happens at an access. -/
inductive Event
  | works
  /-- It raises an exception. -/
  | fails
  /-- An exception arrives that `except Exception` does not catch. -/
  | interrupts
  /-- The process ends, and none of its handlers runs. -/
  | dies
  deriving DecidableEq

/-- Why a program has stopped. -/
inductive Stop (ε : Type)
  | raised (e : ε)
  | failed
  | interrupted
  | died

/-- The state, and what happens at the next accesses; those after the list work. -/
structure World (σ : Type) where
  state : σ
  events : List Event

abbrev Program (ε σ α : Type) : Type := EStateM (Stop ε) (World σ) α

/-- One access. -/
def access (f : σ → α × σ) : Program ε σ α := fun w =>
  match w.events with
  | [] => .ok (f w.state).1 ⟨(f w.state).2, []⟩
  | .works :: rest => .ok (f w.state).1 ⟨(f w.state).2, rest⟩
  | .fails :: rest => .error .failed ⟨w.state, rest⟩
  | .interrupts :: rest => .error .interrupted ⟨w.state, rest⟩
  | .dies :: rest => .error .died ⟨w.state, rest⟩

def read (f : σ → α) : Program ε σ α := access fun s => (f s, s)

def write (f : σ → σ) : Program ε σ Unit := access fun s => ((), f s)

/-- A check that touches nothing outside. -/
def check (x : Except ε α) : Program ε σ α := fun w =>
  match x with
  | .ok a => .ok a w
  | .error e => .error (.raised e) w

/-- The cleanup runs, and the program stops as it would have. -/
def stopAfter (stop : Stop ε) (cleanup : Program ε σ Unit) : Program ε σ α := fun w =>
  match cleanup w with
  | .ok _ last => .error stop last
  | .error other last => .error other last

/-- `except Exception: cleanup; raise`. -/
def handled (body : Program ε σ α) (cleanup : Program ε σ Unit) : Program ε σ α := fun w =>
  match body w with
  | .ok a after => .ok a after
  | .error (.raised e) after => stopAfter (.raised e) cleanup after
  | .error .failed after => stopAfter .failed cleanup after
  | .error stop after => .error stop after

/-- `finally: cleanup`. -/
def ensured (body : Program ε σ α) (cleanup : Program ε σ Unit) : Program ε σ α := fun w =>
  match body w with
  | .ok a after =>
    match cleanup after with
    | .ok _ last => .ok a last
    | .error other last => .error other last
  | .error .died after => .error .died after
  | .error stop after => stopAfter stop cleanup after

/-- `ignore_errors`. -/
def quietly (x : Program ε σ Unit) : Program ε σ Unit := fun w =>
  match x w with
  | .ok _ after => .ok () after
  | .error .failed after => .ok () after
  | .error stop after => .error stop after

/-! ## Nothing happens -/

section Undisturbed
variable (s : σ)

@[simp] theorem read_works (f : σ → α) : (read f : Program ε σ α) ⟨s, []⟩ = .ok (f s) ⟨s, []⟩ := rfl

@[simp] theorem write_works (f : σ → σ) : (write f : Program ε σ Unit) ⟨s, []⟩ = .ok () ⟨f s, []⟩ := rfl

@[simp] theorem read_step (f : σ → α) (rest : List Event) :
    (read f : Program ε σ α) ⟨s, .works :: rest⟩ = .ok (f s) ⟨s, rest⟩ := rfl

@[simp] theorem write_step (f : σ → σ) (rest : List Event) :
    (write f : Program ε σ Unit) ⟨s, .works :: rest⟩ = .ok () ⟨f s, rest⟩ := rfl

@[simp] theorem read_dies (f : σ → α) (rest : List Event) :
    (read f : Program ε σ α) ⟨s, .dies :: rest⟩ = .error .died ⟨s, rest⟩ := rfl

@[simp] theorem quietly_works (f : σ → σ) :
    (quietly (write f) : Program ε σ Unit) ⟨s, []⟩ = .ok () ⟨f s, []⟩ := rfl

@[simp] theorem check_works (a : α) (w : World σ) : (check (.ok a) : Program ε σ α) w = .ok a w := rfl

@[simp] theorem check_raises (e : ε) (w : World σ) :
    (check (.error e) : Program ε σ α) w = .error (.raised e) w := rfl

theorem handled_ok {body : Program ε σ α} {cleanup : Program ε σ Unit} {a : α} {w after : World σ}
    (ran : body w = .ok a after) : handled body cleanup w = .ok a after := by
  rw [handled, ran]

theorem handled_raised {body : Program ε σ α} {e : ε} {w : World σ} {s : σ}
    (ran : body w = .error (.raised e) ⟨s, []⟩) (f : σ → σ) :
    handled body (quietly (write f)) w = .error (.raised e) ⟨f s, []⟩ := by
  rw [handled, ran]
  rfl

theorem ensured_ok {body : Program ε σ α} {a : α} {w : World σ} {s : σ} (ran : body w = .ok a ⟨s, []⟩)
    (f : σ → σ) : ensured body (quietly (write f)) w = .ok a ⟨f s, []⟩ := by
  rw [ensured, ran]
  rfl

theorem ensured_raised {body : Program ε σ α} {e : ε} {w : World σ} {s : σ}
    (ran : body w = .error (.raised e) ⟨s, []⟩) (f : σ → σ) :
    ensured body (quietly (write f)) w = .error (.raised e) ⟨f s, []⟩ := by
  rw [ensured, ran]
  rfl

end Undisturbed

/-! ## Whatever happens -/

/-- How a program that started in `w` has ended: in `Q`, or stopped in a state of `I`.
Where nothing happened it can only have raised an exception. -/
def Ended (I : σ → Prop) (Q : α → σ → Prop) (w : World σ) : EStateM.Result (Stop ε) (World σ) α → Prop
  | .ok a after => Q a after.state ∧ (w.events = [] → after.events = [])
  | .error stop after => I after.state ∧ (w.events = [] → after.events = [] ∧ ∃ e, stop = .raised e)

/-- From states in `P` the program ends in `Q`, or is stopped in a state of `I`. -/
def Triple (I P : σ → Prop) (x : Program ε σ α) (Q : α → σ → Prop) : Prop :=
  ∀ w, P w.state → Ended I Q w (x w)

variable {I P P' : σ → Prop} {Q Q' : α → σ → Prop} {R : β → σ → Prop}

theorem Triple.bind {x : Program ε σ α} {f : α → Program ε σ β} (first : Triple I P x Q)
    (rest : ∀ a, Triple I (Q a) (f a) R) : Triple I P (x >>= f) R := by
  intro w here
  have ran := first w here
  rw [Effects.bind_at]
  cases result : x w with
  | ok a after =>
    rw [result] at ran
    obtain ⟨between, quiet⟩ := ran
    have ran' := rest a after between
    dsimp only
    cases result' : f a after with
    | ok b last =>
      rw [result'] at ran'
      exact ⟨ran'.1, fun none => ran'.2 (quiet none)⟩
    | error stop last =>
      rw [result'] at ran'
      exact ⟨ran'.1, fun none => ran'.2 (quiet none)⟩
  | error stop after =>
    rw [result] at ran
    exact ran

theorem Triple.pure {a : α} (holds : ∀ s, P s → Q a s) : Triple I P (pure a : Program ε σ α) Q :=
  fun w here => ⟨holds w.state here, id⟩

theorem Triple.weaken {x : Program ε σ α} (triple : Triple I P x Q) (before : ∀ s, P' s → P s)
    (after : ∀ a s, Q a s → Q' a s) : Triple I P' x Q' := by
  intro w here
  have ran := triple w (before w.state here)
  cases result : x w with
  | ok a last =>
    rw [result] at ran
    exact ⟨after a last.state ran.1, ran.2⟩
  | error stop last =>
    rw [result] at ran
    exact ran

/-- What is known apart from the state. -/
theorem Triple.given {p : Prop} {x : Program ε σ α} (triple : p → Triple I P x Q) :
    Triple I (fun s => p ∧ P s) x Q := fun w here => triple here.1 w here.2

theorem Triple.access {f : σ → α × σ} (stopped : ∀ s, P s → I s) (done : ∀ s, P s → Q (f s).1 (f s).2) :
    Triple I P (access f : Program ε σ α) Q := by
  intro w here
  obtain ⟨s, events⟩ := w
  match events with
  | [] => exact ⟨done s here, id⟩
  | .works :: _ => exact ⟨done s here, nofun⟩
  | .fails :: _ => exact ⟨stopped s here, nofun⟩
  | .interrupts :: _ => exact ⟨stopped s here, nofun⟩
  | .dies :: _ => exact ⟨stopped s here, nofun⟩

theorem Triple.read {f : σ → α} (stopped : ∀ s, P s → I s) :
    Triple I P (read f : Program ε σ α) fun a s => a = f s ∧ P s :=
  Triple.access stopped fun _ here => ⟨rfl, here⟩

theorem Triple.write {f : σ → σ} {Q : σ → Prop} (stopped : ∀ s, P s → I s) (done : ∀ s, P s → Q (f s)) :
    Triple I P (write f : Program ε σ Unit) fun _ => Q :=
  Triple.access stopped done

theorem Triple.check {x : Except ε α} (stopped : ∀ s, P s → I s) :
    Triple I P (check x : Program ε σ α) fun a s => x = .ok a ∧ P s := by
  intro w here
  cases x with
  | ok a => exact ⟨⟨rfl, here⟩, id⟩
  | error e => exact ⟨stopped w.state here, fun none => ⟨none, e, rfl⟩⟩

theorem Ended.stopAfter {stop : Stop ε} {cleanup : Program ε σ Unit} {w after : World σ}
    (cleans : Triple I I cleanup fun _ => I)
    (stopped : I after.state ∧ (w.events = [] → after.events = [] ∧ ∃ e, stop = .raised e)) :
    Ended I Q w (stopAfter stop cleanup after) := by
  obtain ⟨here, quiet⟩ := stopped
  have ran := cleans after here
  rw [Interrupts.stopAfter]
  cases result : cleanup after with
  | ok _ last =>
    rw [result] at ran
    exact ⟨ran.1, fun none => ⟨ran.2 (quiet none).1, (quiet none).2⟩⟩
  | error other last =>
    rw [result] at ran
    exact ⟨ran.1, fun none => ran.2 (quiet none).1⟩

theorem Triple.handled {body : Program ε σ α} {cleanup : Program ε σ Unit} (runs : Triple I P body Q)
    (cleans : Triple I I cleanup fun _ => I) : Triple I P (handled body cleanup) Q := by
  intro w here
  have ran := runs w here
  rw [Interrupts.handled]
  cases result : body w with
  | ok a after =>
    rw [result] at ran
    exact ran
  | error stop after =>
    rw [result] at ran
    cases stop with
    | raised e => exact Ended.stopAfter cleans ran
    | failed => exact Ended.stopAfter cleans ran
    | interrupted => exact ran
    | died => exact ran

theorem Triple.ensured {body : Program ε σ α} {cleanup : Program ε σ Unit} (runs : Triple I P body Q)
    (ends : ∀ a, Triple I (Q a) cleanup fun _ => Q a) (cleans : Triple I I cleanup fun _ => I) :
    Triple I P (ensured body cleanup) Q := by
  intro w here
  have ran := runs w here
  rw [Interrupts.ensured]
  cases result : body w with
  | ok a after =>
    rw [result] at ran
    obtain ⟨done, quiet⟩ := ran
    have last := ends a after done
    dsimp only
    cases cleaned : cleanup after with
    | ok _ last' =>
      rw [cleaned] at last
      exact ⟨last.1, fun none => last.2 (quiet none)⟩
    | error other last' =>
      rw [cleaned] at last
      exact ⟨last.1, fun none => last.2 (quiet none)⟩
  | error stop after =>
    rw [result] at ran
    cases stop with
    | raised e => exact Ended.stopAfter cleans ran
    | failed => exact Ended.stopAfter cleans ran
    | interrupted => exact Ended.stopAfter cleans ran
    | died => exact ran

theorem Triple.quietly {f : σ → σ} (stopped : ∀ s, P s → I s) (keeps : ∀ s, P s → P (f s)) :
    Triple I P (Interrupts.quietly (Interrupts.write f) : Program ε σ Unit) fun _ => P := by
  intro w here
  obtain ⟨s, events⟩ := w
  match events with
  | [] => exact ⟨keeps s here, id⟩
  | .works :: _ => exact ⟨keeps s here, nofun⟩
  | .fails :: _ => exact ⟨here, nofun⟩
  | .interrupts :: _ => exact ⟨stopped s here, nofun⟩
  | .dies :: _ => exact ⟨stopped s here, nofun⟩

end Interrupts
