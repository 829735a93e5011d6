import Mathlib.Data.List.Forall2

/-!
# Checks before a write

A request as a chain of checks and lookups in `Except`, and what its success
says of each of them.
-/

namespace Checks
universe u v
variable {ε : Type u} {α β : Type v}

/-- Fail with `e` where the condition does not hold. -/
def require (condition : Prop) [Decidable condition] (e : ε) : Except ε Unit :=
  if condition then .ok () else .error e

/-- What a lookup found, or the failure. -/
def found (lookup : Option α) (e : ε) : Except ε α :=
  match lookup with
  | some a => .ok a
  | none => .error e

@[simp] theorem bind_ok {x : Except ε α} {f : α → Except ε β} {b : β} :
    (x >>= f) = .ok b ↔ ∃ a, x = .ok a ∧ f a = .ok b := by
  cases x <;> simp [bind, Except.bind]

@[simp] theorem pure_ok {a b : α} : (pure a : Except ε α) = .ok b ↔ a = b := by
  simp [pure, Except.pure]

@[simp] theorem require_ok {condition : Prop} [Decidable condition] {e : ε} {u : Unit} :
    require condition e = .ok u ↔ condition := by
  by_cases holds : condition <;> simp [require, holds]

@[simp] theorem found_ok {lookup : Option α} {e : ε} {a : α} :
    found lookup e = .ok a ↔ lookup = some a := by
  cases lookup <;> simp [found]

theorem of_isOk {x : Except ε α} (ok : x.isOk = true) : ∃ a, x = .ok a := by
  cases x with
  | ok a => exact ⟨a, rfl⟩
  | error e => cases ok

@[simp] theorem isOk_map {x : Except ε α} (f : α → β) : (x.map f).isOk = x.isOk := by
  cases x <;> rfl

/-- A loop that ends at its first failure succeeds when every round does. -/
theorem mapM_isOk {γ : Type v} {f : γ → Except ε α} {items : List γ} :
    (items.mapM f).isOk = true ↔ ∀ item ∈ items, (f item).isOk = true := by
  induction items with
  | nil => simp [pure, Except.pure, Except.isOk, Except.toBool]
  | cons item items ih =>
    rw [List.mapM_cons, List.forall_mem_cons, ← ih]
    cases f item <;> cases items.mapM f <;>
      simp [bind, Except.bind, pure, Except.pure, Except.isOk, Except.toBool]

/-- A loop whose rounds all succeed. -/
theorem mapM_ok {γ : Type v} {f : γ → Except ε α} {g : γ → α} {items : List γ}
    (each : ∀ item ∈ items, f item = .ok (g item)) : items.mapM f = .ok (items.map g) := by
  induction items with
  | nil => rfl
  | cons item items ih =>
    have rest := ih fun later member => each later (List.mem_cons_of_mem item member)
    rw [List.mapM_cons, each item List.mem_cons_self, rest]
    rfl

/-- A failed loop fails as one of its rounds does. -/
theorem mapM_error {γ : Type v} {f : γ → Except ε α} {items : List γ} {e : ε}
    (failed : items.mapM f = .error e) : ∃ item ∈ items, f item = .error e := by
  induction items with
  | nil => cases failed
  | cons item items ih =>
    rw [List.mapM_cons] at failed
    cases first : f item with
    | error other =>
      rw [first] at failed
      cases failed
      exact ⟨item, List.mem_cons_self, first⟩
    | ok value =>
      cases rest : items.mapM f with
      | error other =>
        rw [first, rest] at failed
        cases failed
        obtain ⟨later, member, raised⟩ := ih rest
        exact ⟨later, List.mem_cons_of_mem item member, raised⟩
      | ok values =>
        rw [first, rest] at failed
        cases failed

/-- A loop that succeeds returns what each round does, in order. -/
theorem mapM_forall₂ {γ : Type v} {f : γ → Except ε α} {items : List γ} {results : List α}
    (ran : items.mapM f = .ok results) :
    List.Forall₂ (fun item result => f item = .ok result) items results := by
  induction items generalizing results with
  | nil =>
    cases ran
    exact .nil
  | cons item items ih =>
    rw [List.mapM_cons] at ran
    obtain ⟨first, head, more⟩ := bind_ok.mp ran
    obtain ⟨rest, tail, same⟩ := bind_ok.mp more
    rw [pure_ok] at same
    subst same
    exact .cons head (ih tail)

/-- What every round of a loop preserves holds at its end. -/
theorem foldlM_keeps {γ : Type v} {f : α → γ → Except ε α} (inv : α → Prop)
    (step : ∀ {a item a'}, f a item = .ok a' → inv a → inv a') {items : List γ} {a a' : α}
    (ran : items.foldlM f a = .ok a') (start : inv a) : inv a' := by
  induction items generalizing a with
  | nil =>
    cases ran
    exact start
  | cons item items ih =>
    rw [List.foldlM_cons] at ran
    obtain ⟨middle, first, rest⟩ := bind_ok.mp ran
    exact ih rest (step first start)

/-! ## Two runs side by side -/

/-- Two results that fail alike, or succeed with related values. -/
inductive Alike {γ : Type v} (R : α → γ → Prop) : Except ε α → Except ε γ → Prop
  | error (e : ε) : Alike R (.error e) (.error e)
  | ok {a : α} {c : γ} (related : R a c) : Alike R (.ok a) (.ok c)

theorem Alike.bind {γ δ : Type v} {R : α → γ → Prop} {S : β → δ → Prop} {x : Except ε α} {y : Except ε γ}
    (alike : Alike R x y) {f : α → Except ε β} {g : γ → Except ε δ} (next : ∀ a c, R a c → Alike S (f a) (g c)) :
    Alike S (x >>= f) (y >>= g) := by
  cases alike with
  | error e => exact .error e
  | ok related => exact next _ _ related

theorem Alike.of_ok {γ : Type v} {R : α → γ → Prop} {x : Except ε α} {y : Except ε γ} (alike : Alike R x y)
    {a : α} {c : γ} (first : x = .ok a) (second : y = .ok c) : R a c := by
  cases alike with
  | error e => cases first
  | ok related =>
    cases first
    cases second
    exact related

/-- Two loops whose rounds keep what relates them. -/
theorem foldlM_alike {σ τ γ δ : Type v} {R : σ → τ → Prop} {S : γ → δ → Prop} {f : σ → γ → Except ε σ}
    {g : τ → δ → Except ε τ} (round : ∀ s t c d, R s t → S c d → Alike R (f s c) (g t d)) {s : σ} {t : τ}
    {first : List γ} {second : List δ} (items : List.Forall₂ S first second) (start : R s t) :
    Alike R (first.foldlM f s) (second.foldlM g t) := by
  induction items generalizing s t with
  | nil => exact .ok start
  | cons item _ ih =>
    rw [List.foldlM_cons, List.foldlM_cons]
    exact (round _ _ _ _ start item).bind fun _ _ => ih

theorem Alike.imp {γ : Type v} {R S : α → γ → Prop} {x : Except ε α} {y : Except ε γ} (alike : Alike R x y)
    (stronger : ∀ a c, R a c → S a c) : Alike S x y := by
  cases alike with
  | error e => exact .error e
  | ok related => exact .ok (stronger _ _ related)

theorem Alike.map {γ δ : Type v} {R : α → γ → Prop} {S : β → δ → Prop} {x : Except ε α} {y : Except ε γ}
    (alike : Alike R x y) {f : α → β} {g : γ → δ} (next : ∀ a c, R a c → S (f a) (g c)) :
    Alike S (x.map f) (y.map g) := by
  cases alike with
  | error e => exact .error e
  | ok related => exact .ok (next _ _ related)

theorem Alike.trans {γ δ : Type v} {R : α → γ → Prop} {S : γ → δ → Prop} {x : Except ε α} {y : Except ε γ}
    {z : Except ε δ} (first : Alike R x y) (second : Alike S y z) : Alike (fun a d => ∃ c, R a c ∧ S c d) x z := by
  cases first with
  | error e =>
    cases second with
    | error => exact .error e
  | ok related =>
    cases second with
    | ok next => exact .ok ⟨_, related, next⟩

theorem Alike.eq {x y : Except ε α} (alike : Alike Eq x y) : x = y := by
  cases alike with
  | error e => rfl
  | ok same => rw [same]

theorem alike_of_eq {x y : Except ε α} (same : x = y) : Alike Eq x y := by
  subst same
  cases x with
  | error e => exact .error e
  | ok a => exact .ok rfl

theorem alike_refl {x : Except ε α} {R : α → α → Prop} (refl : ∀ a, R a a) : Alike R x x := by
  cases x with
  | error e => exact .error e
  | ok a => exact .ok (refl a)

/-- Loops over related items, with related rounds. -/
theorem mapM_alike {γ δ : Type v} {R : α → β → Prop} {S : γ → δ → Prop} {f : γ → Except ε α} {g : δ → Except ε β}
    {first : List γ} {second : List δ} (items : List.Forall₂ S first second)
    (round : ∀ c ∈ first, ∀ d, S c d → Alike R (f c) (g d)) :
    Alike (List.Forall₂ R) (first.mapM f) (second.mapM g) := by
  induction items with
  | nil => exact .ok .nil
  | @cons c d _ _ item _ ih =>
    rw [List.mapM_cons, List.mapM_cons]
    have rest := ih fun later member => round later (List.mem_cons_of_mem c member)
    refine (round c List.mem_cons_self d item).bind fun a b head => ?_
    exact rest.bind fun as bs tail => .ok (.cons head tail)

/-- A result that fails in one way only. -/
def FailsAs (e : ε) (x : Except ε α) : Prop := ∀ other, x = .error other → other = e

theorem failsAs_ok (e : ε) (a : α) : FailsAs e (.ok a : Except ε α) := by
  rintro other ⟨⟩

theorem FailsAs.bind {e : ε} {x : Except ε α} (fails : FailsAs e x) {f : α → Except ε β}
    (next : ∀ a, FailsAs e (f a)) : FailsAs e (x >>= f) := by
  cases x with
  | error first =>
    rintro other ⟨⟩
    exact fails first rfl
  | ok a => exact next a

theorem FailsAs.map {e : ε} {x : Except ε α} (fails : FailsAs e x) (f : α → β) : FailsAs e (x.map f) := by
  cases x with
  | error first =>
    rintro other ⟨⟩
    exact fails first rfl
  | ok a => exact failsAs_ok e _

theorem mapM_fails {γ : Type v} {f : γ → Except ε α} {e : ε} {items : List γ}
    (fails : ∀ item ∈ items, FailsAs e (f item)) : FailsAs e (items.mapM f) := by
  intro other failed
  obtain ⟨item, member, raised⟩ := mapM_error failed
  exact fails item member other raised

/-- A loop whose rounds fail in one way only does not depend on the order of the items. -/
theorem mapM_perm {γ : Type v} {f : γ → Except ε α} {e : ε} {first second : List γ} (perm : first.Perm second)
    (fails : ∀ item ∈ first, FailsAs e (f item)) : Alike List.Perm (first.mapM f) (second.mapM f) := by
  induction perm with
  | nil => exact .ok .nil
  | @cons item _ _ _ ih =>
    rw [List.mapM_cons, List.mapM_cons]
    have rest := ih fun later member => fails later (List.mem_cons_of_mem item member)
    refine (alike_refl (R := Eq) fun _ => rfl).bind fun a b same => ?_
    subst same
    exact rest.bind fun as bs tail => .ok (tail.cons a)
  | @swap item other rest =>
    simp only [List.mapM_cons]
    cases one : f other with
    | error first =>
      cases two : f item with
      | error second =>
        rw [fails other List.mem_cons_self first one,
          fails item (List.mem_cons_of_mem other List.mem_cons_self) second two]
        exact .error e
      | ok b => exact .error first
    | ok a =>
      cases two : f item with
      | error second => exact .error second
      | ok b =>
        cases rest.mapM f with
        | error third => exact .error third
        | ok values => exact .ok (.swap b a values)
  | trans left right ihLeft ihRight =>
    have moved := ihRight fun item member => fails item (left.symm.subset member)
    refine ((ihLeft fails).trans moved).imp fun _ _ both => ?_
    obtain ⟨middle, first, second⟩ := both
    exact first.trans second

end Checks
