import Mathlib.Data.Multiset.MapFold

/-!
# Greedy matching

Requests take items in turn, each the first one left that it accepts. A perfect
matching is `Multiset.Rel`, which forgets the order of both sides.
-/

namespace Matching
variable {α β : Type*} (accepts : α → β → Bool)

/-- The requests that found no item, and the items that are left. -/
def greedy : List α → List β → List α × List β
  | [], items => ([], items)
  | request :: requests, items =>
    if (items.find? (accepts request)).isSome then
      greedy requests (items.eraseP (accepts request))
    else (request :: (greedy requests items).1, (greedy requests items).2)

/-- Every request with an item it accepts, and no item left. -/
def Perfect (requests : List α) (items : List β) : Prop :=
  Multiset.Rel (fun request item => accepts request item = true) (requests : Multiset α)
    (items : Multiset β)

/-- Some request takes an item that every perfect matching of what is left at
its turn gives to another one. -/
def Strands : List α → List β → Prop
  | [], _ => False
  | request :: requests, items =>
    Perfect accepts (request :: requests) items ∧
        ¬ Perfect accepts requests (items.eraseP (accepts request)) ∨
      Strands requests (items.eraseP (accepts request))

variable {accepts}

theorem Perfect.perm {requests requests' : List α} {items items' : List β}
    (sameRequests : requests'.Perm requests) (sameItems : items'.Perm items) :
    Perfect accepts requests' items' ↔ Perfect accepts requests items := by
  rw [Perfect, Perfect, Multiset.coe_eq_coe.mpr sameRequests, Multiset.coe_eq_coe.mpr sameItems]

theorem perfect_nil {items : List β} : Perfect accepts [] items ↔ items = [] := by
  simp [Perfect, Multiset.rel_zero_left]

/-- Taking an item is moving it to the front. -/
theorem perm_cons_eraseP {p : β → Bool} {items : List β} {item : β}
    (found : items.find? p = some item) : items.Perm (item :: items.eraseP p) := by
  obtain ⟨holds, before, after, rfl, none⟩ := List.find?_eq_some_iff_append.mp found
  have none : ∀ other ∈ before, ¬ p other = true := fun other there => by simpa using none other there
  rw [List.eraseP_append_right _ none, List.eraseP_cons_of_pos holds]
  exact List.perm_middle

theorem perfect_cons {request : α} {requests : List α} {items : List β} :
    Perfect accepts (request :: requests) items ↔ ∃ item others, accepts request item = true ∧
      items.Perm (item :: others) ∧ Perfect accepts requests others := by
  rw [Perfect, ← Multiset.cons_coe, Multiset.rel_cons_left]
  constructor
  · intro ⟨item, others, accepted, rest, same⟩
    obtain ⟨others, rfl⟩ := Quot.exists_rep others
    exact ⟨item, others, accepted, Multiset.coe_eq_coe.mp same, rest⟩
  · intro ⟨item, others, accepted, same, rest⟩
    exact ⟨item, others, accepted, rest, Multiset.coe_eq_coe.mpr same⟩

/-- Taking the first item serves everyone exactly when a perfect matching
exists and nobody is stranded. -/
theorem greedy_complete_iff (requests : List α) (items : List β) :
    greedy accepts requests items = ([], []) ↔
      Perfect accepts requests items ∧ ¬ Strands accepts requests items := by
  induction requests generalizing items with
  | nil => simp [greedy, Strands, perfect_nil]
  | cons request requests ih =>
    cases found : items.find? (accepts request) with
    | none =>
      have unserved : ¬ Perfect accepts (request :: requests) items := by
        intro perfect
        obtain ⟨item, others, accepted, same, -⟩ := perfect_cons.mp perfect
        exact List.find?_eq_none.mp found item (same.symm.subset (List.mem_cons_self ..)) accepted
      simp [greedy, found, unserved]
    | some item =>
      simp only [greedy, found, Option.isSome_some, ↓reduceIte, ih, Strands]
      constructor
      · intro ⟨rest, unstranded⟩
        have perfect := perfect_cons.mpr
          ⟨item, _, List.find?_some found, perm_cons_eraseP found, rest⟩
        exact ⟨perfect, by simp [rest, unstranded]⟩
      · intro ⟨perfect, unstranded⟩
        simp only [perfect, true_and, not_or, not_not] at unstranded
        exact unstranded

/-- Nobody is stranded where nobody has a choice. -/
theorem not_strands_of_unique {requests : List α} {items : List β}
    (unique : ∀ request ∈ requests, ∀ item ∈ items, ∀ other ∈ items,
      accepts request item = true → accepts request other = true → item = other) :
    ¬ Strands accepts requests items := by
  induction requests generalizing items with
  | nil => simp [Strands]
  | cons request requests ih =>
    rintro (⟨perfect, stranded⟩ | later)
    · obtain ⟨item, others, accepted, same, rest⟩ := perfect_cons.mp perfect
      have member := same.symm.subset (List.mem_cons_self ..)
      cases found : items.find? (accepts request) with
      | none => exact List.find?_eq_none.mp found item member accepted
      | some first =>
        have taken : item = first :=
          unique request (List.mem_cons_self ..) item member first (List.mem_of_find?_eq_some found)
            accepted (List.find?_some found)
        subst taken
        have others_same := ((perm_cons_eraseP found).symm.trans same).cons_inv
        exact stranded ((Perfect.perm (List.Perm.refl _) others_same).mpr rest)
    · refine ih ?_ later
      intro other later item member item' member'
      exact unique other (List.mem_cons_of_mem _ later) item (List.mem_of_mem_eraseP member) item'
        (List.mem_of_mem_eraseP member')

/-! ## What is left -/

theorem left_subset (requests : List α) (items : List β) :
    (greedy accepts requests items).2 ⊆ items := by
  induction requests generalizing items with
  | nil => exact List.Subset.refl _
  | cons request requests ih =>
    rw [greedy]
    split
    · exact List.Subset.trans (ih _) (List.eraseP_sublist ..).subset
    · exact ih items

/-- An item nobody accepts is left. -/
theorem mem_left_of_refused {requests : List α} {items : List β} {item : β} (there : item ∈ items)
    (refused : ∀ request ∈ requests, accepts request item = false) :
    item ∈ (greedy accepts requests items).2 := by
  induction requests generalizing items with
  | nil => exact there
  | cons request requests ih =>
    have later : ∀ other ∈ requests, accepts other item = false := fun other member =>
      refused other (List.mem_cons_of_mem _ member)
    rw [greedy]
    split
    · have kept : ¬ accepts request item = true := by
        rw [refused request (List.mem_cons_self ..)]
        exact Bool.false_ne_true
      exact ih ((List.mem_eraseP_of_neg kept).mpr there) later
    · exact ih there later

/-- An item that is there once, and is all that some request accepts, is taken. -/
theorem not_mem_left [DecidableEq β] {requests : List α} {items : List β} {request : α} {item : β}
    (asked : request ∈ requests) (accepted : accepts request item = true)
    (only : ∀ other ∈ items, accepts request other = true → other = item)
    (once : items.count item ≤ 1) : item ∉ (greedy accepts requests items).2 := by
  induction requests generalizing items with
  | nil => cases asked
  | cons first requests ih =>
    rw [greedy]
    rcases List.mem_cons.mp asked with rfl | later
    · cases found : items.find? (accepts request) with
      | none =>
        intro left
        exact List.find?_eq_none.mp found item (left_subset _ _ left) accepted
      | some taken =>
        obtain rfl := only taken (List.mem_of_find?_eq_some found) (List.find?_some found)
        have rest := (perm_cons_eraseP found).count_eq taken
        rw [List.count_cons_self] at rest
        intro left
        have remains := List.count_pos_iff.mpr (left_subset _ _ left)
        omega
    · split
      · have smaller : (items.eraseP (accepts first)).Sublist items := List.eraseP_sublist ..
        exact ih later (fun other member => only other (smaller.subset member))
          ((smaller.count_le item).trans once)
      · exact ih later only once

/-! ## Items by a column -/

section Map
variable {γ : Type*} (f : γ → β)

theorem perfect_map {requests : List α} {items : List γ} :
    Perfect accepts requests (items.map f) ↔
      Perfect (fun request item => accepts request (f item)) requests items := by
  rw [Perfect, Perfect, ← Multiset.map_coe, Multiset.rel_map_right]

theorem greedy_map (requests : List α) (items : List γ) :
    greedy accepts requests (items.map f) =
      ((greedy (fun request item => accepts request (f item)) requests items).1,
        (greedy (fun request item => accepts request (f item)) requests items).2.map f) := by
  induction requests generalizing items with
  | nil => rfl
  | cons request requests ih =>
    have found : ((items.map f).find? (accepts request)).isSome =
        (items.find? fun item => accepts request (f item)).isSome := by
      rw [List.find?_map, Option.isSome_map]
      rfl
    rw [greedy, greedy, found, List.eraseP_map, ih, ih]
    split <;> rfl

theorem strands_map {requests : List α} {items : List γ} :
    Strands accepts requests (items.map f) ↔
      Strands (fun request item => accepts request (f item)) requests items := by
  induction requests generalizing items with
  | nil => exact Iff.rfl
  | cons request requests ih =>
    rw [Strands, Strands, List.eraseP_map, ih, perfect_map, perfect_map]
    rfl

end Map

end Matching
