import Mathlib.Algebra.BigOperators.Group.List.Basic
import Mathlib.Data.Rat.Floor
import Mathlib.Tactic.Linarith
import Mathlib.Tactic.Positivity
import RankRent.Library.PyString

/-!
# Rounding

`round` to a number of digits keeps the order of the numbers and moves none of them by
more than half a unit of the last digit. `int`, `round` and `fmean` are also those of exact numbers
of any field.
-/

namespace PyString

theorem abs_roundHalfEven_sub (q : ℚ) : |(roundHalfEven q : ℚ) - q| ≤ 1 / 2 := by
  have low := Int.floor_le q
  have high := Int.lt_floor_add_one q
  unfold roundHalfEven
  dsimp only
  split_ifs with below above even
  all_goals
    push_cast
    rw [abs_le]
    constructor <;> linarith

theorem roundHalfEven_mono {p q : ℚ} (le : p ≤ q) : roundHalfEven p ≤ roundHalfEven q := by
  have nearP := abs_le.mp (abs_roundHalfEven_sub p)
  have nearQ := abs_le.mp (abs_roundHalfEven_sub q)
  by_contra more
  -- The two would lie a whole unit apart, each half a unit from its number.
  have apart : (roundHalfEven q : ℚ) + 1 ≤ roundHalfEven p := by exact_mod_cast not_le.mp more
  have same : p = q := by linarith [nearP.2, nearQ.1]
  exact more (same ▸ le_rfl)

/-- A tie goes down to an even number. -/
theorem roundHalfEven_le_iff {q : ℚ} {n : ℤ} (even : n % 2 = 0) : roundHalfEven q ≤ n ↔ q ≤ n + 1 / 2 := by
  constructor
  · intro le
    have near := (abs_le.mp (abs_roundHalfEven_sub q)).1
    have below : (roundHalfEven q : ℚ) ≤ n := by exact_mod_cast le
    linarith
  · intro le
    have floor_ : ⌊(n + 1 / 2 : ℚ)⌋ = n := by
      rw [Int.floor_eq_iff]
      constructor <;> linarith
    have tie : roundHalfEven (n + 1 / 2 : ℚ) = n := by
      unfold roundHalfEven
      simp only [floor_, add_sub_cancel_left, lt_irrefl, if_false, even, if_true]
    calc roundHalfEven q ≤ roundHalfEven (n + 1 / 2 : ℚ) := roundHalfEven_mono le
      _ = n := tie

theorem rounded_mono (digits : Nat) : Monotone (rounded digits) := by
  intro p q le
  have scaled : p * 10 ^ digits ≤ q * 10 ^ digits := by gcongr
  have whole : (roundHalfEven (p * 10 ^ digits) : ℚ) ≤ roundHalfEven (q * 10 ^ digits) := by
    exact_mod_cast roundHalfEven_mono scaled
  unfold rounded
  gcongr

theorem abs_rounded_sub (digits : Nat) (q : ℚ) : |rounded digits q - q| ≤ 1 / (2 * 10 ^ digits) := by
  have unit : (0 : ℚ) < 10 ^ digits := by positivity
  have near := abs_roundHalfEven_sub (q * 10 ^ digits)
  have scaled : rounded digits q - q = (roundHalfEven (q * 10 ^ digits) - q * 10 ^ digits) / 10 ^ digits := by
    rw [rounded, sub_div, mul_div_cancel_right₀ q unit.ne']
  calc |rounded digits q - q|
      = |roundHalfEven (q * 10 ^ digits) - q * 10 ^ digits| / 10 ^ digits := by
        rw [scaled, abs_div, abs_of_pos unit]
    _ ≤ 1 / 2 / 10 ^ digits := by gcongr
    _ = 1 / (2 * 10 ^ digits) := div_div _ _ _

/-- A number with that many digits. -/
def Whole (digits : Nat) (q : ℚ) : Prop := ∃ n : ℤ, q * 10 ^ digits = n

theorem Whole.rounded {digits : Nat} {q : ℚ} (whole : Whole digits q) : rounded digits q = q := by
  obtain ⟨n, eq⟩ := whole
  exact rounded_of_whole eq

theorem whole_rounded (digits : Nat) (q : ℚ) : Whole digits (rounded digits q) := by
  refine ⟨roundHalfEven (q * 10 ^ digits), ?_⟩
  exact div_mul_cancel₀ _ (by positivity)

theorem whole_intCast (digits : Nat) (n : ℤ) : Whole digits (n : ℚ) :=
  ⟨n * 10 ^ digits, by push_cast; rfl⟩

theorem Whole.add {digits : Nat} {p q : ℚ} (first : Whole digits p) (second : Whole digits q) :
    Whole digits (p + q) := by
  obtain ⟨m, left⟩ := first
  obtain ⟨n, right⟩ := second
  exact ⟨m + n, by push_cast; rw [add_mul, left, right]⟩

theorem rounded_le {digits : Nat} {q bound : ℚ} (whole : Whole digits bound) (le : q ≤ bound) :
    rounded digits q ≤ bound := by
  have within := rounded_mono digits le
  rwa [whole.rounded] at within

theorem le_rounded {digits : Nat} {q bound : ℚ} (whole : Whole digits bound) (le : bound ≤ q) :
    bound ≤ rounded digits q := by
  have within := rounded_mono digits le
  rwa [whole.rounded] at within

theorem rounded_nonneg {digits : Nat} {q : ℚ} (nonneg : 0 ≤ q) : 0 ≤ rounded digits q :=
  le_rounded (by simpa using whole_intCast digits 0) nonneg

@[simp] theorem rounded_zero (digits : Nat) : rounded digits 0 = 0 :=
  Whole.rounded (by simpa using whole_intCast digits 0)

end PyString

/-! ## Numbers of any ordered field -/

namespace PyNumber
variable {α : Type*} [Field α] [LinearOrder α]

/-- `int(x)`. -/
def truncate [FloorRing α] (x : α) : ℤ := if x < 0 then ⌈x⌉ else ⌊x⌋

/-- `round(x)`, a half to the even side. -/
def roundHalfEven [FloorRing α] (x : α) : ℤ :=
  let low := ⌊x⌋
  if x - low < 1 / 2 then low
  else if 1 / 2 < x - low then low + 1
  else if low % 2 = 0 then low else low + 1

/-- `round(x, digits)`. -/
def rounded [FloorRing α] (digits : ℕ) (x : α) : α := roundHalfEven (x * 10 ^ digits) / 10 ^ digits

omit [LinearOrder α] in
/-- `fmean`, of a list that is not empty. -/
def fmean (values : List α) : α := values.sum / values.length

end PyNumber
