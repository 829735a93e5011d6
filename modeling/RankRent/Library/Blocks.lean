import Mathlib.Data.List.Nodup

/-!
# Blocks of a list

A list made of blocks of one length, cut off somewhere. What is left begins the
block of each element up to the cut.
-/

namespace Blocks
variable {α β : Type*} {f : α → List β} {size : Nat}

/-- How many blocks of a size begin before a cut. -/
def begun (size cut : Nat) : Nat := (cut + size - 1) / size

theorem first_mem_take {block : List β} {first : β} (head : first ∈ block.head?) {cut : Nat} (room : 0 < cut) :
    first ∈ block.take cut := by
  cases block with
  | nil => simp at head
  | cons y ys =>
    cases cut with
    | zero => omega
    | succ cut => simp_all

section
variable (some : 0 < size)
include some

theorem begun_zero : begun size 0 = 0 := by
  rw [begun, Nat.div_eq_of_lt]
  omega

theorem begun_succ {cut : Nat} (room : 0 < cut) : begun size cut = begun size (cut - size) + 1 := by
  by_cases full : size ≤ cut
  · rw [begun, begun, ← Nat.add_div_right _ some]
    congr 1
    omega
  · rw [show cut - size = 0 by omega, begun_zero some, begun]
    apply Nat.div_eq_of_lt_le <;> omega

variable (size_eq : ∀ x, (f x).length = size)
include size_eq

omit some in
theorem take_flatMap_cons (x : α) (xs : List α) (cut : Nat) :
    ((x :: xs).flatMap f).take cut = (f x).take cut ++ (xs.flatMap f).take (cut - size) := by
  rw [List.flatMap_cons, List.take_append, size_eq]

/-- What is left lies in blocks that begin before the cut. -/
theorem mem_take {xs : List α} {cut : Nat} {y : β} (member : y ∈ (xs.flatMap f).take cut) :
    ∃ x ∈ xs.take (begun size cut), y ∈ f x := by
  induction xs generalizing cut with
  | nil => simp at member
  | cons x xs ih =>
    have room : 0 < cut := by
      cases cut with
      | zero => simp at member
      | succ cut => omega
    rw [take_flatMap_cons size_eq, List.mem_append] at member
    rw [begun_succ some room, List.take_succ_cons]
    obtain inside | later := member
    · exact ⟨x, List.mem_cons_self, List.mem_of_mem_take inside⟩
    · obtain ⟨other, there, inside⟩ := ih later
      exact ⟨other, List.mem_cons_of_mem x there, inside⟩

/-- Each block that begins before the cut has its first element in what is left. -/
theorem head_mem_take {xs : List α} {cut : Nat} {x : α} (member : x ∈ xs.take (begun size cut)) :
    ∀ first ∈ (f x).head?, first ∈ (xs.flatMap f).take cut := by
  intro first head
  induction xs generalizing cut with
  | nil => simp at member
  | cons other xs ih =>
    by_cases room : 0 < cut
    · rw [begun_succ some room, List.take_succ_cons, List.mem_cons] at member
      rw [take_flatMap_cons size_eq, List.mem_append]
      obtain rfl | later := member
      · exact Or.inl (first_mem_take head room)
      · exact Or.inr (ih later)
    · rw [show cut = 0 by omega, begun_zero some] at member
      simp at member

/-- Blocks that share nothing leave no element twice exactly when no block
begins twice. -/
theorem nodup_take {xs : List α} {cut : Nat} (each : ∀ x, (f x).Nodup)
    (apart : ∀ x y b, b ∈ f x → b ∈ f y → x = y) :
    ((xs.flatMap f).take cut).Nodup ↔ (xs.take (begun size cut)).Nodup := by
  induction xs generalizing cut with
  | nil => simp
  | cons x xs ih =>
    by_cases room : 0 < cut
    · rw [take_flatMap_cons size_eq, begun_succ some room, List.take_succ_cons,
        List.nodup_append, ih, List.nodup_cons]
      constructor
      · rintro ⟨-, rest, disjoint⟩
        refine ⟨fun again => ?_, rest⟩
        -- The block of `x` begins before the cut and again behind the whole of it.
        cases head : (f x).head? with
        | none =>
          have := size_eq x
          rw [List.head?_eq_none_iff.mp head, List.length_nil] at this
          omega
        | some first =>
          exact disjoint first (first_mem_take head room) first
            (head_mem_take some size_eq again first head) rfl
      · rintro ⟨fresh, rest⟩
        refine ⟨(each x).sublist (List.take_sublist _ _), rest, ?_⟩
        rintro y inside z later rfl
        obtain ⟨other, there, again⟩ := mem_take some size_eq later
        rw [apart x other y (List.mem_of_mem_take inside) again] at fresh
        exact fresh there
    · rw [show cut = 0 by omega, begun_zero some]
      simp

end

end Blocks
