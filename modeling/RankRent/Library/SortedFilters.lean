import Mathlib.Data.List.Basic

/-!
# Filters of sorted lists

A filter and a sort do not wait for each other, and where the members of one kind are
sorted to the front, a limit keeps as many of them as it can.
-/

namespace List
variable {α : Type} {p : α → Bool} {le : α → α → Bool}

section
variable (transitive : ∀ a b c, le a b = true → le b c = true → le a c = true)
  (total : ∀ a b, (le a b || le b a) = true)
include transitive total

/-- A member goes before those it is not above, and behind the others. -/
theorem mergeSort_cons_eq (a : α) (items : List α) :
    (a :: items).mergeSort le =
      ((items.mergeSort le).filter fun b => !le a b) ++ a :: (items.mergeSort le).filter (le a) := by
  obtain ⟨before, after, whole, rest, above⟩ := List.mergeSort_cons transitive total a items
  have sorted := List.pairwise_mergeSort transitive total (a :: items)
  rw [whole, List.pairwise_append, List.pairwise_cons] at sorted
  have below : ∀ b ∈ after, le a b = true := sorted.2.1.1
  have front : ((before ++ after).filter fun b => !le a b) = before := by
    rw [List.filter_append, List.filter_eq_self.mpr above, List.filter_eq_nil_iff.mpr, List.append_nil]
    simpa using below
  have back : (before ++ after).filter (le a) = after := by
    rw [List.filter_append, List.filter_eq_self.mpr below, List.filter_eq_nil_iff.mpr, List.nil_append]
    simpa using above
  rw [whole, rest, front, back]

theorem filter_mergeSort (p : α → Bool) (items : List α) :
    (items.mergeSort le).filter p = (items.filter p).mergeSort le := by
  induction items with
  | nil => simp
  | cons a items ih =>
    by_cases kind : p a = true
    · rw [mergeSort_cons_eq transitive total, List.filter_cons_of_pos kind, mergeSort_cons_eq transitive total, ← ih,
        List.filter_append, List.filter_cons_of_pos kind, List.filter_comm, List.filter_comm (le a)]
    · obtain ⟨before, after, whole, rest, -⟩ := List.mergeSort_cons transitive total a items
      rw [List.filter_cons_of_neg kind, ← ih, whole, rest, List.filter_append, List.filter_append,
        List.filter_cons_of_neg kind]

end

/-- No other member stands before one with `p`. -/
def Leads (p : α → Bool) (items : List α) : Prop := items.Pairwise fun a b => p b = true → p a = true

theorem filter_take_of_leads {items : List α} (leads : Leads p items) (limit : ℕ) :
    (items.take limit).filter p = (items.filter p).take limit := by
  induction items generalizing limit with
  | nil => simp
  | cons a items ih =>
    obtain ⟨first, rest⟩ := List.pairwise_cons.mp leads
    cases limit with
    | zero => simp
    | succ limit =>
      by_cases kind : p a = true
      · simp [kind, ih rest]
      · have others : ∀ b ∈ items, ¬ p b = true := fun b member other => kind (first b member other)
        have none_ : items.filter p = [] := List.filter_eq_nil_iff.mpr others
        have cut : (items.take limit).filter p = [] :=
          List.filter_eq_nil_iff.mpr fun b member => others b (List.mem_of_mem_take member)
        simp [kind, none_, cut]

/-- Sorted by an order that puts them first, a limit keeps the first of their own order. -/
theorem filter_take_mergeSort (transitive : ∀ a b c, le a b = true → le b c = true → le a c = true)
    (total : ∀ a b, (le a b || le b a) = true) (first : ∀ a b, le a b = true → p b = true → p a = true)
    (items : List α) (limit : ℕ) :
    ((items.mergeSort le).take limit).filter p = ((items.filter p).mergeSort le).take limit := by
  have leads : Leads p (items.mergeSort le) :=
    (List.pairwise_mergeSort transitive total items).imp fun {a b} before => first a b before
  rw [filter_take_of_leads leads, filter_mergeSort transitive total]

end List
