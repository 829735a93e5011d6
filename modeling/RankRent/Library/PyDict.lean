import Mathlib.Algebra.BigOperators.Group.List.Basic
import Mathlib.Data.List.Basic
import Mathlib.Data.List.Forall2
import Mathlib.Data.List.Induction
import Mathlib.Data.List.Nodup

/-!
# Dicts

A Python `dict` is its items in insertion order; its keys are distinct, and
`List.lookup` is `get`.
-/

namespace PyDict
variable {κ α : Type} [BEq κ] [LawfulBEq κ]

/-- `{**items, key: value}`: a key that is there keeps its place. -/
def setItem (items : List (κ × α)) (key : κ) (value : α) : List (κ × α) :=
  if (items.lookup key).isSome then
    items.map fun item => if item.1 == key then (key, value) else item
  else items ++ [(key, value)]

@[simp] theorem lookup_setItem (items : List (κ × α)) (key : κ) (value : α) :
    (setItem items key value).lookup key = some value := by
  unfold setItem
  split
  · rename_i there
    induction items with
    | nil => simp at there
    | cons item items ih =>
      rw [List.map_cons, List.lookup_cons]
      by_cases same : item.1 = key
      · simp [same]
      · have other : (key == item.1) = false := beq_false_of_ne (Ne.symm same)
        rw [List.lookup_cons, other] at there
        simpa [same, other] using ih there
  · rename_i absent
    rw [List.lookup_append, Option.not_isSome_iff_eq_none.mp absent]
    simp

theorem lookup_setItem_of_ne (items : List (κ × α)) {key other : κ} (value : α) (ne : other ≠ key) :
    (setItem items key value).lookup other = items.lookup other := by
  have apart : (other == key) = false := beq_false_of_ne ne
  unfold setItem
  split
  · induction items with
    | nil => rfl
    | cons item items ih =>
      rw [List.map_cons, List.lookup_cons, List.lookup_cons]
      by_cases same : item.1 = key
      · by_cases later : (items.lookup key).isSome = true
        · simp [same, apart, ih later]
        · -- The key stands in the head alone, and the tail is not changed.
          have kept : items.map (fun item => if item.1 == key then (key, value) else item) = items := by
            refine (List.map_congr_left fun entry member => ?_).trans (List.map_id items)
            have absent : entry.1 ≠ key := by
              rintro rfl
              rw [Option.not_isSome_iff_eq_none, List.lookup_eq_none_iff] at later
              simpa using later entry member
            simp [absent]
          simp [same, apart, kept]
      · by_cases found : other = item.1
        · simp [found, same]
        · have there : (items.lookup key).isSome = true := by
            rename_i present
            rwa [List.lookup_cons, beq_false_of_ne (Ne.symm same)] at present
          simp [same, beq_false_of_ne found, ih there]
  · rw [List.lookup_append]
    simp [List.lookup_cons, apart]

theorem lookup_isSome {items : List (κ × α)} {key : κ} :
    (items.lookup key).isSome = true ↔ key ∈ items.map Prod.fst := by
  induction items with
  | nil => simp
  | cons item items ih =>
    rw [List.lookup_cons]
    by_cases same : key = item.1
    · simp [same]
    · simp [beq_false_of_ne same, same, ih]

theorem mem_of_lookup {items : List (κ × α)} {key : κ} {value : α} (found : items.lookup key = some value) :
    (key, value) ∈ items := by
  obtain ⟨before, after, rfl, -⟩ := List.lookup_eq_some_iff.mp found
  exact List.mem_append_right _ List.mem_cons_self

/-- The keys keep their places. -/
theorem keys_setItem (items : List (κ × α)) (key : κ) (value : α) :
    (setItem items key value).map Prod.fst =
      if (items.lookup key).isSome then items.map Prod.fst else items.map Prod.fst ++ [key] := by
  unfold setItem
  split
  · rw [List.map_map]
    refine List.map_congr_left fun item _ => ?_
    by_cases same : item.1 = key <;> simp [same]
  · simp

theorem nodup_setItem {items : List (κ × α)} (distinct : (items.map Prod.fst).Nodup) (key : κ)
    (value : α) : ((setItem items key value).map Prod.fst).Nodup := by
  rw [keys_setItem]
  split
  · exact distinct
  · rename_i absent
    rw [lookup_isSome] at absent
    exact distinct.append (List.nodup_singleton key) (List.disjoint_singleton.mpr absent)

theorem mem_setItem {items : List (κ × α)} {key : κ} {value : α} {item : κ × α}
    (member : item ∈ setItem items key value) : item = (key, value) ∨ item ∈ items := by
  unfold setItem at member
  split at member
  · obtain ⟨old, there, rfl⟩ := List.mem_map.mp member
    by_cases same : old.1 = key
    · simp [same]
    · simp [same, there]
  · simpa [or_comm] using member

/-- A key that is not there comes last. -/
theorem setItem_fresh {items : List (κ × α)} {key : κ} (fresh : key ∉ items.map Prod.fst) (value : α) :
    setItem items key value = items ++ [(key, value)] := by
  have absent : ¬ (items.lookup key).isSome = true := fun there => fresh (lookup_isSome.mp there)
  rw [setItem, if_neg absent]

/-- After its items are set in turn, a key has what its last one says. -/
theorem lookup_update {β : Type} (f : β → α) (entries : List (κ × β)) (items : List (κ × α)) (key : κ) :
    (entries.foldl (fun items entry => setItem items entry.1 (f entry.2)) items).lookup key =
      ((entries.reverse.lookup key).map f).or (items.lookup key) := by
  induction entries generalizing items with
  | nil => rfl
  | cons entry entries ih =>
    obtain ⟨own, value⟩ := entry
    rw [List.foldl_cons, ih, List.reverse_cons, List.lookup_append]
    cases entries.reverse.lookup key with
    | some last => rfl
    | none =>
      by_cases same : key = own
      · simp [same]
      · simp [lookup_setItem_of_ne items (f value) same, List.lookup_cons, beq_false_of_ne same]

/-! ## Groups -/

/-- `groups.setdefault(key, []).append(value)`. -/
def appendTo (groups : List (κ × List α)) (key : κ) (value : α) : List (κ × List α) :=
  setItem groups key ((groups.lookup key).getD [] ++ [value])

theorem nodup_appendTo {groups : List (κ × List α)} (distinct : (groups.map Prod.fst).Nodup) (key : κ)
    (value : α) : ((appendTo groups key value).map Prod.fst).Nodup :=
  nodup_setItem distinct key _

theorem lookup_of_mem {groups : List (κ × α)} (distinct : (groups.map Prod.fst).Nodup) {entry : κ × α}
    (member : entry ∈ groups) : groups.lookup entry.1 = some entry.2 := by
  induction groups with
  | nil => cases member
  | cons head rest ih =>
    rw [List.map_cons, List.nodup_cons] at distinct
    rw [List.lookup_cons]
    rcases List.mem_cons.mp member with rfl | later
    · simp
    · have apart : entry.1 ≠ head.1 := by
        intro same
        exact distinct.1 (same ▸ List.mem_map_of_mem later)
      simp [beq_false_of_ne apart, ih distinct.2 later]

/-- The members of the groups are those before, and the new one. -/
theorem appendTo_perm {groups : List (κ × List α)} (distinct : (groups.map Prod.fst).Nodup) (key : κ)
    (value : α) :
    ((appendTo groups key value).flatMap Prod.snd).Perm (groups.flatMap Prod.snd ++ [value]) := by
  unfold appendTo setItem
  split
  · rename_i present
    induction groups with
    | nil => simp at present
    | cons head rest ih =>
      rw [List.map_cons, List.nodup_cons] at distinct
      rw [List.lookup_cons] at present ⊢
      by_cases same : key = head.1
      · subst same
        have kept : rest.map (fun item => if item.1 == head.1 then (head.1, head.2 ++ [value]) else item) =
            rest := by
          refine (List.map_congr_left fun entry member => ?_).trans (List.map_id rest)
          have apart : entry.1 ≠ head.1 := by
            intro same
            exact distinct.1 (same ▸ List.mem_map_of_mem member)
          simp [apart]
        simp only [beq_self_eq_true, if_true, Option.getD_some, List.map_cons, List.flatMap_cons, kept,
          List.append_assoc]
        exact List.perm_append_comm.append_left head.2
      · have apart : (key == head.1) = false := beq_false_of_ne same
        have other : (head.1 == key) = false := beq_false_of_ne (Ne.symm same)
        rw [apart] at present
        simp only [apart, other, List.map_cons, List.flatMap_cons, List.append_assoc]
        exact (ih distinct.2 present).append_left head.2
  · rename_i absent
    rw [Option.not_isSome_iff_eq_none.mp absent]
    simp

/-! ## Totals -/

section Totals
variable {μ ν : Type} [AddCommMonoid μ] [AddCommMonoid ν]

/-- `totals[key] = totals.get(key, 0) + amount`. -/
def addTo (totals : List (κ × μ)) (key : κ) (amount : μ) : List (κ × μ) :=
  setItem totals key ((totals.lookup key).getD 0 + amount)

/-- The amounts of the rows, added up by key. -/
def tally (rows : List α) (key : α → κ) (amount : α → μ) : List (κ × μ) :=
  rows.foldl (fun totals row => addTo totals (key row) (amount row)) []

/-- A sum over the totals that adds up within each key grows by the amount added. -/
theorem sum_addTo {totals : List (κ × μ)} (distinct : (totals.map Prod.fst).Nodup) (key : κ) (amount : μ)
    {g : κ → μ → ν} (add : ∀ k a b, g k (a + b) = g k a + g k b) :
    ((addTo totals key amount).map fun total => g total.1 total.2).sum =
      (totals.map fun total => g total.1 total.2).sum + g key amount := by
  unfold addTo setItem
  split
  · rename_i present
    induction totals with
    | nil => simp at present
    | cons head rest ih =>
      rw [List.map_cons, List.nodup_cons] at distinct
      rw [List.lookup_cons] at present ⊢
      by_cases same : key = head.1
      · subst same
        have kept (value : μ) :
            rest.map (fun item => if item.1 == head.1 then (head.1, value) else item) = rest := by
          refine (List.map_congr_left fun entry member => ?_).trans (List.map_id rest)
          have apart : entry.1 ≠ head.1 := by
            intro same
            exact distinct.1 (same ▸ List.mem_map_of_mem member)
          simp [apart]
        simp only [beq_self_eq_true, Option.getD_some, List.map_cons, if_true, List.sum_cons, kept, add]
        exact add_right_comm _ _ _
      · have apart : (key == head.1) = false := beq_false_of_ne same
        have other : (head.1 == key) = false := beq_false_of_ne (Ne.symm same)
        rw [apart] at present
        simp only [apart, other, List.map_cons, List.sum_cons]
        rw [add_assoc, ← ih distinct.2 present]
        rfl
  · rename_i absent
    simp [Option.not_isSome_iff_eq_none.mp absent]

theorem nodup_addTo {totals : List (κ × μ)} (distinct : (totals.map Prod.fst).Nodup) (key : κ)
    (amount : μ) : ((addTo totals key amount).map Prod.fst).Nodup :=
  nodup_setItem distinct key _

omit [LawfulBEq κ] in
theorem tally_snoc (rows : List α) (row : α) (key : α → κ) (amount : α → μ) :
    tally (rows ++ [row]) key amount = addTo (tally rows key amount) (key row) (amount row) := by
  simp [tally]

theorem nodup_tally (rows : List α) (key : α → κ) (amount : α → μ) :
    ((tally rows key amount).map Prod.fst).Nodup := by
  induction rows using List.reverseRecOn with
  | nil => simp [tally]
  | append_singleton rows row ih =>
    rw [tally_snoc]
    exact nodup_addTo ih _ _

/-- A sum over the totals is the sum over the rows. -/
theorem sum_tally (rows : List α) (key : α → κ) (amount : α → μ) {g : κ → μ → ν}
    (add : ∀ k a b, g k (a + b) = g k a + g k b) :
    ((tally rows key amount).map fun total => g total.1 total.2).sum =
      (rows.map fun row => g (key row) (amount row)).sum := by
  induction rows using List.reverseRecOn with
  | nil => simp [tally]
  | append_singleton rows row ih =>
    rw [tally_snoc, sum_addTo (nodup_tally rows key amount) _ _ add, ih]
    simp

theorem mem_keys_tally {rows : List α} {key : α → κ} {amount : α → μ} {k : κ} :
    k ∈ (tally rows key amount).map Prod.fst ↔ ∃ row ∈ rows, key row = k := by
  induction rows using List.reverseRecOn with
  | nil => simp [tally]
  | append_singleton rows row ih =>
    rw [tally_snoc, addTo, keys_setItem]
    split
    · rename_i present
      rw [ih]
      constructor
      · rintro ⟨other, member, same⟩
        exact ⟨other, List.mem_append_left _ member, same⟩
      · rintro ⟨other, member, rfl⟩
        rcases List.mem_append.mp member with old | new
        · exact ⟨other, old, rfl⟩
        · obtain rfl := List.mem_singleton.mp new
          exact ih.mp (lookup_isSome.mp present)
    · simp [ih, or_and_right, exists_or, eq_comm]

/-- The total of a key. -/
theorem lookup_tally [DecidableEq κ] (rows : List α) (key : α → κ) (amount : α → μ) (k : κ) :
    ((tally rows key amount).lookup k).getD 0 =
      (rows.map fun row => if key row = k then amount row else 0).sum := by
  induction rows using List.reverseRecOn with
  | nil => simp [tally]
  | append_singleton rows row ih =>
    rw [tally_snoc, addTo, List.map_append, List.sum_append, ← ih]
    by_cases same : key row = k
    · simp [same]
    · rw [lookup_setItem_of_ne _ _ (Ne.symm same)]
      simp [same]

end Totals

/-! ## Two dicts of one shape -/

section Related
variable {β : Type} {R : α → β → Prop} {items : List (κ × α)} {other : List (κ × β)}

/-- The same keys in the same places, with related values. -/
def Related (R : α → β → Prop) : List (κ × α) → List (κ × β) → Prop :=
  List.Forall₂ fun item item' => item.1 = item'.1 ∧ R item.2 item'.2

omit [LawfulBEq κ] in
theorem Related.lookup (related : Related R items other) (key : κ) :
    Option.Rel R (items.lookup key) (other.lookup key) := by
  induction related with
  | nil => exact .none
  | @cons item item' _ _ same _ ih =>
    rw [List.lookup_cons, List.lookup_cons, ← same.1]
    cases key == item.1 with
    | true => exact .some same.2
    | false => exact ih

omit [BEq κ] [LawfulBEq κ] in
theorem Related.values (related : Related R items other) :
    List.Forall₂ R (items.map Prod.snd) (other.map Prod.snd) := by
  induction related with
  | nil => exact .nil
  | cons same _ ih => exact .cons same.2 ih

omit [LawfulBEq κ] in
theorem Related.setItem (related : Related R items other) (key : κ) {value : α} {value' : β} (values : R value value') :
    Related R (setItem items key value) (setItem other key value') := by
  have there : (items.lookup key).isSome = (other.lookup key).isSome := by
    have found := related.lookup key
    revert found
    cases items.lookup key <;> cases other.lookup key <;> intro found <;> cases found <;> rfl
  unfold PyDict.setItem
  rw [there]
  split
  · refine List.forall₂_map_left_iff.mpr (List.forall₂_map_right_iff.mpr (related.imp fun item item' same => ?_))
    rw [← same.1]
    split
    · exact ⟨rfl, values⟩
    · exact same
  · exact List.rel_append related (.cons ⟨rfl, values⟩ .nil)

end Related

theorem lookup_perm {items other : List (κ × α)} (perm : items.Perm other) (distinct : (items.map Prod.fst).Nodup)
    (key : κ) : items.lookup key = other.lookup key := by
  have distinct' := (perm.map Prod.fst).nodup_iff.mp distinct
  cases found : items.lookup key with
  | some value => exact (lookup_of_mem distinct' (perm.subset (mem_of_lookup found))).symm
  | none =>
    cases found' : other.lookup key with
    | none => rfl
    | some value =>
      have back := lookup_of_mem distinct (perm.symm.subset (mem_of_lookup found'))
      rw [found] at back
      cases back

/-- Two dicts with related values at each key are one dict, but for the places of the keys. -/
theorem perm_related {β : Type} {R : α → β → Prop} {items : List (κ × α)} {other : List (κ × β)}
    (distinct : (items.map Prod.fst).Nodup) (distinct' : (other.map Prod.fst).Nodup)
    (same : ∀ key, Option.Rel R (items.lookup key) (other.lookup key)) :
    ∃ middle, items.Perm middle ∧ Related R middle other := by
  induction other generalizing items with
  | nil =>
    have empty : items = [] := by
      rw [List.eq_nil_iff_forall_not_mem]
      intro item member
      have found := same item.1
      rw [lookup_of_mem distinct member] at found
      cases found
    exact ⟨[], empty ▸ .nil, .nil⟩
  | cons entry other ih =>
    obtain ⟨fresh, distinct'⟩ := List.nodup_cons.mp distinct'
    have found := same entry.1
    rw [List.lookup_cons, beq_self_eq_true] at found
    cases known : items.lookup entry.1 with
    | none =>
      rw [known] at found
      cases found
    | some value =>
      rw [known] at found
      obtain ⟨before, after, rfl⟩ := List.append_of_mem (mem_of_lookup known)
      have moved : (before ++ (entry.1, value) :: after).Perm ((entry.1, value) :: (before ++ after)) :=
        List.perm_middle
      have keys := (moved.map Prod.fst).nodup_iff.mp distinct
      obtain ⟨absent, rest⟩ := List.nodup_cons.mp keys
      have later (key : κ) : Option.Rel R ((before ++ after).lookup key) (other.lookup key) := by
        by_cases is : key = entry.1
        · subst is
          have left : (before ++ after).lookup entry.1 = none := by
            rw [← Option.not_isSome_iff_eq_none, lookup_isSome]
            exact absent
          have right : other.lookup entry.1 = none := by
            rw [← Option.not_isSome_iff_eq_none, lookup_isSome]
            exact fresh
          rw [left, right]
          exact .none
        · have kept := same key
          rw [List.lookup_cons, beq_false_of_ne is, List.lookup_append, List.lookup_cons, beq_false_of_ne is,
            ← List.lookup_append] at kept
          exact kept
      obtain ⟨middle, perm, related⟩ := ih rest distinct' later
      cases found with
      | some first => exact ⟨(entry.1, value) :: middle, moved.trans (perm.cons _), .cons ⟨rfl, first⟩ related⟩

theorem perm_of_lookup {items other : List (κ × α)} (distinct : (items.map Prod.fst).Nodup)
    (distinct' : (other.map Prod.fst).Nodup) (same : ∀ key, items.lookup key = other.lookup key) :
    items.Perm other := by
  obtain ⟨middle, perm, related⟩ := perm_related (R := Eq) distinct distinct' fun key => by
    rw [same key]
    cases other.lookup key with
    | none => exact .none
    | some value => exact .some rfl
  have equal : List.Forall₂ Eq middle other := related.imp fun _ _ both => Prod.ext both.1 both.2
  rw [List.forall₂_eq_eq_eq] at equal
  exact equal ▸ perm

/-- The totals do not depend on the order of the rows, but for the places of the keys. -/
theorem tally_perm {μ : Type} [AddCommMonoid μ] [DecidableEq κ] {rows other : List α} (perm : rows.Perm other)
    (key : α → κ) (amount : α → μ) : (tally rows key amount).Perm (tally other key amount) := by
  refine perm_of_lookup (nodup_tally rows key amount) (nodup_tally other key amount) fun k => ?_
  have there : ((tally rows key amount).lookup k).isSome = ((tally other key amount).lookup k).isSome := by
    rw [Bool.eq_iff_iff, lookup_isSome, lookup_isSome, mem_keys_tally, mem_keys_tally]
    simp only [perm.mem_iff]
  have total : ((tally rows key amount).lookup k).getD 0 = ((tally other key amount).lookup k).getD 0 := by
    rw [lookup_tally, lookup_tally]
    exact (perm.map _).sum_eq
  revert there total
  cases (tally rows key amount).lookup k <;> cases (tally other key amount).lookup k <;> simp

/-! ## Merged values -/

section Merged
variable (merge : α → α → α)

/-- The values of a key are merged, from the first one on. -/
def mergeTo (items : List (κ × α)) (key : κ) (value : α) : List (κ × α) :=
  setItem items key (match items.lookup key with
    | none => value
    | some old => merge old value)

def mergedBy (key : α → κ) (rows : List α) : List (κ × α) :=
  rows.foldl (fun items row => mergeTo merge items (key row) row) []

/-- The rows of one key, merged. -/
def reduce : List α → Option α
  | [] => none
  | row :: rows => some (rows.foldl merge row)

theorem reduce_snoc (rows : List α) (row : α) :
    reduce merge (rows ++ [row]) = some (match reduce merge rows with
      | none => row
      | some old => merge old row) := by
  cases rows with
  | nil => rfl
  | cons first rows => simp [reduce]

omit [LawfulBEq κ] in
theorem mergedBy_snoc (key : α → κ) (rows : List α) (row : α) :
    mergedBy merge key (rows ++ [row]) = mergeTo merge (mergedBy merge key rows) (key row) row := by
  simp [mergedBy]

theorem nodup_mergedBy (key : α → κ) (rows : List α) : ((mergedBy merge key rows).map Prod.fst).Nodup := by
  induction rows using List.reverseRecOn with
  | nil => simp [mergedBy]
  | append_singleton rows row ih =>
    rw [mergedBy_snoc]
    exact nodup_setItem ih _ _

theorem lookup_mergedBy [DecidableEq κ] (key : α → κ) (rows : List α) (k : κ) :
    (mergedBy merge key rows).lookup k = reduce merge (rows.filter fun row => key row = k) := by
  induction rows using List.reverseRecOn with
  | nil => rfl
  | append_singleton rows row ih =>
    rw [mergedBy_snoc, mergeTo, List.filter_append]
    by_cases same : key row = k
    · subst same
      rw [lookup_setItem, ih]
      simp [reduce_snoc]
    · rw [lookup_setItem_of_ne _ _ (Ne.symm same), ih]
      simp [same]

theorem reduce_isSome {rows : List α} : (reduce merge rows).isSome = true ↔ rows ≠ [] := by
  cases rows <;> simp [reduce]

theorem mem_keys_mergedBy [DecidableEq κ] {key : α → κ} {rows : List α} {k : κ} :
    k ∈ (mergedBy merge key rows).map Prod.fst ↔ ∃ row ∈ rows, key row = k := by
  rw [← lookup_isSome, lookup_mergedBy, reduce_isSome, ne_eq, List.filter_eq_nil_iff]
  simp

/-- Merging within a key keeps the key. -/
theorem key_mergedBy {key : α → κ} (keeps : ∀ a b, key a = key b → key (merge a b) = key b) {rows : List α} :
    ∀ item ∈ mergedBy merge key rows, key item.2 = item.1 := by
  induction rows using List.reverseRecOn with
  | nil => simp [mergedBy]
  | append_singleton rows row ih =>
    intro item member
    rw [mergedBy_snoc] at member
    rcases mem_setItem member with rfl | old
    · cases found : (mergedBy merge key rows).lookup (key row) with
      | none => simp
      | some old => simpa using keeps old row (ih _ (mem_of_lookup found))
    · exact ih item old

end Merged

end PyDict
