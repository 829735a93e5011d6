import Mathlib.Data.List.Basic

/-!
# Statement lists that may raise

A program is a list of statements; the n-th one runs at tick `n`, so that `step`
can depend on what the surroundings do at that moment. The first statement that
raises ends the run.
-/

namespace Programs
variable {σ : Type*} {κ : Type*} {ε : Type*}

/-- Run the statements from tick `n` on. -/
def run (step : Nat → σ → κ → σ × Option ε) : Nat → σ → List κ → σ × Option ε
  | _, s, [] => (s, none)
  | n, s, c :: rest =>
    match step n s c with
    | (t, none) => run step (n + 1) t rest
    | (t, some e) => (t, some e)

/-- `ok` holds at every statement that is reached. -/
def Throughout (ok : Nat → σ → Prop) (step : Nat → σ → κ → σ × Option ε) :
    Nat → σ → List κ → Prop
  | _, _, [] => True
  | n, s, c :: rest => ok n s ∧
    match step n s c with
    | (t, none) => Throughout ok step (n + 1) t rest
    | (_, some _) => True

instance decidableThroughout {ok : Nat → σ → Prop} [∀ n s, Decidable (ok n s)]
    {step : Nat → σ → κ → σ × Option ε} :
    ∀ n s program, Decidable (Throughout ok step n s program)
  | _, _, [] => inferInstanceAs (Decidable True)
  | n, s, c :: rest =>
    have : Decidable (match step n s c with
        | (t, none) => Throughout ok step (n + 1) t rest
        | (_, some _) => True) :=
      match step n s c with
      | (t, none) => decidableThroughout (n + 1) t rest
      | (_, some _) => inferInstanceAs (Decidable True)
    inferInstanceAs (Decidable (ok n s ∧ _))

variable {ok : Nat → σ → Prop} {step : Nat → σ → κ → σ × Option ε}

theorem run_of_step {n : Nat} {s t : σ} {c : κ} (taken : step n s c = (t, none)) (rest : List κ) :
    run step n s (c :: rest) = run step (n + 1) t rest := by
  rw [run, taken]

theorem run_of_raise {n : Nat} {s t : σ} {c : κ} {e : ε} (raised : step n s c = (t, some e))
    (rest : List κ) : run step n s (c :: rest) = (t, some e) := by
  rw [run, raised]

/-- A program after another. -/
theorem run_append (first rest : List κ) (n : Nat) (s : σ) :
    run step n s (first ++ rest) =
      match run step n s first with
      | (t, none) => run step (n + first.length) t rest
      | (t, some e) => (t, some e) := by
  induction first generalizing n s with
  | nil => rfl
  | cons c first ih =>
    cases taken : step n s c with
    | mk t raised =>
      cases raised with
      | none =>
        rw [List.cons_append, run_of_step taken, run_of_step taken, ih, List.length_cons,
          Nat.add_comm first.length, ← Nat.add_assoc]
      | some e => rw [List.cons_append, run_of_raise taken, run_of_raise taken]

/-! ## One failure point -/

section Failure
variable (raises : ε) (failure : Option Nat) (apply : σ → κ → σ × Option ε)

/-- Statements that run as they are, except that the one at `failure` raises
before it has any effect. -/
def failing (n : Nat) (s : σ) (c : κ) : σ × Option ε :=
  if failure = some n then (s, some raises) else apply s c

variable {raises failure apply}

theorem run_failing_apart {program : List κ} {n : Nat} {s : σ} (m : Nat)
    (apart : ∀ k, failure = some k → k < n ∨ n + program.length ≤ k) :
    run (failing raises failure apply) n s program = run (failing raises none apply) m s program := by
  induction program generalizing n m s with
  | nil => rfl
  | cons c program ih =>
    have here : failure ≠ some n := by
      intro same
      have := apart n same
      simp only [List.length_cons] at this
      omega
    have rest : ∀ k, failure = some k → k < n + 1 ∨ n + 1 + program.length ≤ k := by
      intro k same
      have := apart k same
      simp only [List.length_cons] at this
      have differs : k ≠ n := fun at_ => here (at_ ▸ same)
      omega
    simp only [run, failing, if_neg here, reduceCtorEq, ↓reduceIte]
    cases apply s c with
    | mk t raised =>
      cases raised with
      | none => exact ih (m + 1) rest
      | some e => rfl

/-- A failure inside a program is an end of its run. -/
theorem run_failing_inside {program : List κ} {n k : Nat} {s : σ} (fails : failure = some k)
    (inside : n ≤ k ∧ k < n + program.length) :
    (run (failing raises failure apply) n s program).2 ≠ none := by
  induction program generalizing n s with
  | nil =>
    simp only [List.length_nil] at inside
    omega
  | cons c program ih =>
    by_cases here : k = n
    · subst here
      simp [run, failing, fails]
    · have differs : failure ≠ some n := fun same => here (Option.some.inj (fails.symm.trans same))
      simp only [run, failing, if_neg differs]
      cases apply s c with
      | mk t raised =>
        cases raised with
        | none =>
          simp only [List.length_cons] at inside
          exact ih ⟨by omega, by omega⟩
        | some e => simp

/-- What no statement of the program changes. -/
theorem run_failing_kept {α : Type*} (f : σ → α) {program : List κ}
    (keeps : ∀ c ∈ program, ∀ s, f (apply s c).1 = f s) {n : Nat} {s : σ} :
    f (run (failing raises failure apply) n s program).1 = f s := by
  induction program generalizing n s with
  | nil => rfl
  | cons c program ih =>
    have head := keeps c List.mem_cons_self s
    by_cases here : failure = some n
    · simp [run, failing, here]
    · simp only [run, failing, if_neg here]
      revert head
      cases apply s c with
      | mk t raised =>
        intro head
        cases raised with
        | none => exact (ih fun d member => keeps d (List.mem_cons_of_mem _ member)).trans head
        | some e => exact head

end Failure

theorem Throughout.tail {n : Nat} {s t : σ} {c : κ} {rest : List κ}
    (through : Throughout ok step n s (c :: rest)) (taken : step n s c = (t, none)) :
    Throughout ok step (n + 1) t rest := by
  have := through.2
  rw [taken] at this
  exact this

theorem Throughout.left {n : Nat} {s : σ} {first rest : List κ}
    (through : Throughout ok step n s (first ++ rest)) : Throughout ok step n s first := by
  induction first generalizing n s with
  | nil => trivial
  | cons c first ih =>
    refine ⟨through.1, ?_⟩
    have after := through.2
    revert after
    cases step n s c with
    | mk t raised =>
      cases raised with
      | none => exact ih
      | some e => exact fun _ => trivial

theorem Throughout.right {n : Nat} {s t : σ} {first rest : List κ}
    (through : Throughout ok step n s (first ++ rest)) (runs : run step n s first = (t, none)) :
    Throughout ok step (n + first.length) t rest := by
  induction first generalizing n s with
  | nil =>
    cases runs
    exact through
  | cons c first ih =>
    cases taken : step n s c with
    | mk u raised =>
      cases raised with
      | none =>
        rw [run_of_step taken] at runs
        rw [List.length_cons, Nat.add_comm first.length, ← Nat.add_assoc]
        exact ih (Throughout.tail through taken) runs
      | some e =>
        rw [run_of_raise taken] at runs
        cases runs

/-- One statement moves `I` to `J` without raising. -/
theorem run_step {I J : σ → Prop} {c : κ}
    (moves : ∀ n s, I s → ok n s → ∃ t, step n s c = (t, none) ∧ J t) {n : Nat} {s : σ}
    {rest : List κ} (start : I s) (through : Throughout ok step n s (c :: rest)) :
    ∃ t, J t ∧ run step n s (c :: rest) = run step (n + 1) t rest ∧
      Throughout ok step (n + 1) t rest := by
  obtain ⟨t, taken, after⟩ := moves n s start through.1
  exact ⟨t, after, run_of_step taken rest, through.tail taken⟩

/-- A block of statements that all keep `I` without raising. -/
theorem run_block {I : σ → Prop} {block : List κ}
    (keeps : ∀ c ∈ block, ∀ n s, I s → ok n s → ∃ t, step n s c = (t, none) ∧ I t) {n : Nat} {s : σ}
    {rest : List κ} (start : I s) (through : Throughout ok step n s (block ++ rest)) :
    ∃ m t, I t ∧ run step n s (block ++ rest) = run step m t rest ∧
      Throughout ok step m t rest := by
  induction block generalizing n s with
  | nil => exact ⟨n, s, start, rfl, through⟩
  | cons c block ih =>
    obtain ⟨t, after, same, rest_ok⟩ := run_step (keeps c List.mem_cons_self) start through
    obtain ⟨m, u, end_, runs, left⟩ :=
      ih (fun d member => keeps d (List.mem_cons_of_mem _ member)) after rest_ok
    exact ⟨m, u, end_, same.trans runs, left⟩

end Programs
