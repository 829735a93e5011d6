import Mathlib.Data.List.Dedup
import Mathlib.Data.List.Sort
import RankRent.Library.PyDict
import RankRent.Library.PyJson

/-!
# Groups and sorts

`defaultdict(list)` filled in a loop, `sorted(set)`, and the ends of a list that is
sorted by a key: what of them depends on the order of the rows.
-/

namespace PyDict

/-! ## Groups -/

section Groups
variable {κ α β : Type} [BEq κ] [LawfulBEq κ]

/-- `for row in rows: groups[key(row)].append(value(row))`. -/
def groupedBy (key : β → κ) (value : β → α) (rows : List β) : List (κ × List α) :=
  rows.foldl (fun groups row => appendTo groups (key row) (value row)) []

variable {key : β → κ} {value : β → α} {rows other : List β}

end Groups

end PyDict

namespace PyJson

end PyJson

namespace PyList
variable {β γ : Type*} [LinearOrder γ]

/-! ## Sorts -/

section Sorts
variable (key : β → γ) (rows : List β)

/-- `sorted(rows, key=key)`, which leaves rows with one key in their order. -/
def sortedBy : List β := rows.insertionSort fun a b => key a ≤ key b

variable {key rows} {other : List β} {row : β}

omit [LinearOrder γ] in
theorem map_eq_map {δ : Type*} {found found' : Option β} {f : β → δ} (both : found.isSome = found'.isSome)
    (same : ∀ a ∈ found, ∀ b ∈ found', f a = f b) : found.map f = found'.map f := by
  cases found with
  | none =>
    cases found' with
    | none => rfl
    | some b => cases both
  | some a =>
    cases found' with
    | none => cases both
    | some b => exact congrArg some (same a rfl b rfl)

end Sorts

/-- `sorted(set(items))`. -/
def sortedSet (items : List γ) : List γ := sortedBy id items.dedup

section FirstOfKind
variable {κ δ : Type*} [DecidableEq κ] (key : δ → κ)

variable {key} {rows other : List δ} {row : δ}

end FirstOfKind

end PyList
