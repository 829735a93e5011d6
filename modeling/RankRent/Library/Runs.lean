import Mathlib.Logic.Relation

/-!
# Runs of a labelled system

A step `s —a→ t` is a relation `step s a t`. `Guarded ok step` keeps the steps
whose label the state allows, so a run of it is a run all of whose steps meet
the condition `ok`.
-/

namespace Runs
variable {σ : Type*} {α : Type*} {ok : σ → α → Prop} {step : σ → α → σ → Prop}

/-- The steps whose label the state before them allows. -/
def Guarded (ok : σ → α → Prop) (step : σ → α → σ → Prop) (s t : σ) : Prop :=
  ∃ a, ok s a ∧ step s a t

/-- A run whose steps all meet `ok`. -/
abbrev Reaches (ok : σ → α → Prop) (step : σ → α → σ → Prop) : σ → σ → Prop :=
  Relation.ReflTransGen (Guarded ok step)

/-- What holds at the start and is kept by every allowed step holds throughout. -/
theorem Reaches.invariant {I : σ → Prop} (kept : ∀ s a t, I s → ok s a → step s a t → I t)
    {s t : σ} (run : Reaches ok step s t) (start : I s) : I t := by
  induction run with
  | refl => exact start
  | tail _ last ih =>
    obtain ⟨a, allowed, taken⟩ := last
    exact kept _ a _ ih allowed taken

theorem Reaches.snoc {s t u : σ} {a : α} (run : Reaches ok step s t) (allowed : ok t a)
    (taken : step t a u) : Reaches ok step s u :=
  run.tail ⟨a, allowed, taken⟩

/-- A run under a stronger condition is a run under a weaker one. -/
theorem Reaches.mono {ok' : σ → α → Prop} (weaker : ∀ s a, ok s a → ok' s a) {s t : σ}
    (run : Reaches ok step s t) : Reaches ok' step s t :=
  Relation.ReflTransGen.mono (fun s _ ⟨a, allowed, taken⟩ => ⟨a, weaker s a allowed, taken⟩) _ _ run

/-! ## Runs of a function -/

section Functional
variable {f : σ → α → σ}

/-- Every label of the list is allowed where it is taken. -/
def Allowed (ok : σ → α → Prop) (f : σ → α → σ) : σ → List α → Prop
  | _, [] => True
  | s, a :: labels => ok s a ∧ Allowed ok f (f s a) labels

instance decidableAllowed [∀ s a, Decidable (ok s a)] :
    ∀ s labels, Decidable (Allowed ok f s labels)
  | _, [] => inferInstanceAs (Decidable True)
  | s, a :: labels =>
    have := decidableAllowed (f s a) labels
    inferInstanceAs (Decidable (ok s a ∧ Allowed ok f (f s a) labels))

theorem allowed_snoc {s : σ} {labels : List α} {a : α} :
    Allowed ok f s (labels ++ [a]) ↔ Allowed ok f s labels ∧ ok (labels.foldl f s) a := by
  induction labels generalizing s with
  | nil => simp [Allowed]
  | cons b labels ih => simp only [List.cons_append, Allowed, ih, List.foldl_cons, and_assoc]

/-- What an invariant of the run makes of its labels holds at each of them. -/
theorem Allowed.imp {ok' : σ → α → Prop} {I : σ → Prop}
    (kept : ∀ s a, I s → ok s a → ok' s a ∧ I (f s a)) {s : σ} {labels : List α} (start : I s)
    (allowed : Allowed ok f s labels) : Allowed ok' f s labels := by
  induction labels generalizing s with
  | nil => trivial
  | cons a labels ih =>
    obtain ⟨holds, next⟩ := kept s a start allowed.1
    exact ⟨holds, ih next allowed.2⟩

/-- A list of allowed labels is a run. -/
theorem Allowed.reaches {s : σ} {labels : List α} (allowed : Allowed ok f s labels) :
    Reaches ok (fun s a t => t = f s a) s (labels.foldl f s) := by
  induction labels generalizing s with
  | nil => exact .refl
  | cons a labels ih => exact .head ⟨a, allowed.1, rfl⟩ (ih allowed.2)

end Functional

end Runs
