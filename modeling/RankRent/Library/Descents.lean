import Mathlib.Dynamics.PeriodicPts.Lemmas

/-!
# Maps that go down

A map of a finite type onto itself that never raises a key, and that the key
decides, is the identity.
-/

namespace Descents
variable {α κ : Type} [PartialOrder κ] {f : α → α} {key : α → κ}

theorem iterate_le (descends : ∀ a, key (f a) ≤ key a) (n : Nat) (a : α) :
    key (f^[n] a) ≤ key a := by
  induction n generalizing a with
  | zero => exact le_rfl
  | succ n ih =>
    rw [Function.iterate_succ_apply]
    exact (ih (f a)).trans (descends a)

theorem eq_self [Finite α] (key : α → κ) (onto : Function.Surjective f) (descends : ∀ a, key (f a) ≤ key a)
    (decides : ∀ a b, key a = key b → f a = f b) (a : α) : f a = a := by
  have one : Function.Injective f := Finite.injective_iff_surjective.mpr onto
  obtain ⟨n, positive, periodic⟩ := one.mem_periodicPts a
  obtain ⟨m, rfl⟩ := Nat.exists_eq_succ_of_ne_zero positive.ne'
  have back : key a ≤ key (f a) := by
    have around : f^[m] (f a) = a := by
      rw [← Function.iterate_succ_apply]
      exact periodic
    calc key a = key (f^[m] (f a)) := by rw [around]
      _ ≤ key (f a) := iterate_le descends m (f a)
  exact one (decides (f a) a (le_antisymm (descends a) back))

end Descents
