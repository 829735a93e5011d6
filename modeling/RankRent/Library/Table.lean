import Mathlib.Algebra.BigOperators.Group.List.Basic
import Mathlib.Algebra.Order.BigOperators.Group.List
import Mathlib.Tactic.Abel

/-!
# Tables as lists

Three ways a store keeps rows, and what one write does to them:

* rows found by position, as under an automatic primary key that is never
  reused (`rows[i]?`, `rows.set`, `rows ++ [r]`);
* rows found by a unique key of their own (`get`), written by a pass over them;
* rows found by a unique key and created on first use (`lookup`, `upsert`).
-/

namespace Table

section Positional
variable {α : Type*} {β : Type*} [AddCommGroup β]

/-- Replacing one row changes a sum by the new row's weight minus the old's. -/
theorem sum_map_set (w : α → β) {rows : List α} {i : Nat} {old : α} (new : α)
    (h : rows[i]? = some old) :
    ((rows.set i new).map w).sum = (rows.map w).sum + (w new - w old) := by
  obtain ⟨hi, rfl⟩ := List.getElem?_eq_some_iff.mp h
  rw [List.map_set, List.sum_set']
  simp only [List.length_map, hi, List.getElem_map, dite_true]
  abel

theorem sum_map_set_of_eq (w : α → β) {rows : List α} {i : Nat} {old : α} (new : α)
    (h : rows[i]? = some old) (same : w new = w old) :
    ((rows.set i new).map w).sum = (rows.map w).sum := by
  rw [sum_map_set w new h, same, sub_self, add_zero]

theorem sum_map_append_single (w : α → β) (rows : List α) (r : α) :
    ((rows ++ [r]).map w).sum = (rows.map w).sum + w r := by simp

variable [PartialOrder β] [IsOrderedAddMonoid β]

/-- A row's weight is within the sum when no weight is negative. -/
theorem weight_le_sum (w : α → β) {rows : List α} {i : Nat} {r : α} (h : rows[i]? = some r)
    (nonneg : ∀ x ∈ rows, 0 ≤ w x) : w r ≤ (rows.map w).sum := by
  apply List.single_le_sum
  · intro x hx
    obtain ⟨y, hy, rfl⟩ := List.mem_map.mp hx
    exact nonneg y hy
  · exact List.mem_map_of_mem (List.mem_of_getElem? h)

end Positional

section Writes
variable {α : Type*}

theorem set_same {rows : List α} {i : Nat} {row : α} (found : rows[i]? = some row) :
    rows.set i row = rows := by
  obtain ⟨bound, rfl⟩ := List.getElem?_eq_some_iff.mp found
  exact List.set_getElem_self bound

theorem getElem?_set_cases {rows : List α} {i j : Nat} {new row : α}
    (found : (rows.set i new)[j]? = some row) : i = j ∧ row = new ∨ i ≠ j ∧ rows[j]? = some row := by
  by_cases same : i = j
  · subst same
    have bound := (List.getElem?_eq_some_iff.mp found).1
    rw [List.length_set] at bound
    rw [List.getElem?_set_self bound] at found
    exact Or.inl ⟨rfl, (Option.some.inj found).symm⟩
  · rw [List.getElem?_set_ne same] at found
    exact Or.inr ⟨same, found⟩

/-- Writing a row over one with the same unique key: the row, and the others. -/
theorem mem_set_unique {κ : Type*} (key : α → κ) {rows : List α} (unique : (rows.map key).Nodup)
    {i : Nat} {old new : α} (found : rows[i]? = some old) {row : α} :
    row ∈ rows.set i new ↔ row = new ∨ row ∈ rows ∧ key row ≠ key old := by
  have bound := (List.getElem?_eq_some_iff.mp found).1
  have mapped : (rows.map key)[i]? = some (key old) := by simp [found]
  constructor
  · intro member
    obtain ⟨j, there⟩ := List.mem_iff_getElem?.mp member
    obtain ⟨-, rfl⟩ | ⟨differs, there⟩ := getElem?_set_cases there
    · exact Or.inl rfl
    · refine Or.inr ⟨List.mem_of_getElem? there, fun same => differs ?_⟩
      refine (List.getElem?_inj (by simpa using bound) unique).mp ?_
      rw [mapped, List.getElem?_map, there, Option.map_some, same]
  · rintro (rfl | ⟨member, differs⟩)
    · exact List.mem_iff_getElem?.mpr ⟨i, List.getElem?_set_self bound⟩
    · obtain ⟨j, there⟩ := List.mem_iff_getElem?.mp member
      refine List.mem_iff_getElem?.mpr ⟨j, ?_⟩
      rw [List.getElem?_set_ne]
      · exact there
      · rintro rfl
        rw [found] at there
        cases there
        exact differs rfl

/-- Removing the row that was found, by its unique key. -/
theorem filter_ne_eq_eraseP {κ : Type*} [DecidableEq κ] (key : α → κ) {rows : List α}
    (unique : (rows.map key).Nodup) {p : α → Bool} {row : α} (found : rows.find? p = some row) :
    rows.filter (fun other => key other ≠ key row) = rows.eraseP p := by
  obtain ⟨holds, before, after, rfl, none⟩ := List.find?_eq_some_iff_append.mp found
  have none : ∀ other ∈ before, ¬ p other = true := fun other there => by simpa using none other there
  rw [List.eraseP_append_right _ none, List.eraseP_cons_of_pos holds]
  simp only [List.map_append, List.map_cons, List.nodup_append, List.nodup_cons, List.mem_map,
    List.mem_cons] at unique
  obtain ⟨-, ⟨later, -⟩, apart⟩ := unique
  have kept : ∀ other ∈ before ++ after, key other ≠ key row := by
    intro other member same
    obtain early | late := List.mem_append.mp member
    · exact apart _ ⟨other, early, rfl⟩ _ (Or.inl rfl) same
    · exact later ⟨other, late, same⟩
  rw [List.filter_append, List.filter_cons_of_neg (by simp), ← List.filter_append, List.filter_eq_self]
  intro other member
  exact decide_eq_true (kept other member)

/-- Filtering by a condition that holds from some position on. -/
theorem filter_eq_drop {p : α → Bool} {rows : List α} {n : Nat}
    (from_ : ∀ j row, rows[j]? = some row → (p row = true ↔ n ≤ j)) : rows.filter p = rows.drop n := by
  induction rows generalizing n with
  | nil => simp
  | cons row rest ih =>
    have head := from_ 0 row rfl
    cases n with
    | zero =>
      have kept := ih (n := 0) fun j other there => by
        have := from_ (j + 1) other there
        simpa using this
      rw [List.filter_cons_of_pos (head.mpr (Nat.le_refl 0)), kept]
      rfl
    | succ n =>
      have dropped : ¬ p row = true := by
        rw [head]
        omega
      rw [List.filter_cons_of_neg dropped, List.drop_succ_cons]
      refine ih fun j other there => ?_
      have := from_ (j + 1) other there
      rw [this]
      omega

/-- Filtering by a condition that holds up to some position. -/
theorem filter_prefix {p : α → Bool} {rows : List α}
    (down : rows.Pairwise fun row later => p later = true → p row = true) : rows.filter p <+: rows := by
  induction rows with
  | nil => exact List.nil_prefix
  | cons row rows ih =>
    obtain ⟨head, rest⟩ := List.pairwise_cons.mp down
    by_cases holds : p row = true
    · rw [List.filter_cons_of_pos holds]
      exact (List.prefix_cons_inj row).mpr (ih rest)
    · have none : rows.filter p = [] :=
        List.filter_eq_nil_iff.mpr fun later member kept => holds (head later member kept)
      rw [List.filter_cons_of_neg holds, none]
      exact List.nil_prefix

/-- A pass that changes each of its rows once. -/
theorem foldl_modify (f : Nat → α → α) {ids : List Nat} (distinct : ids.Nodup) (rows : List α)
    (j : Nat) :
    (ids.foldl (fun rows i => rows.modify i (f i)) rows)[j]? =
      rows[j]?.map fun r => if j ∈ ids then f j r else r := by
  induction ids generalizing rows with
  | nil => simp
  | cons i ids ih =>
    obtain ⟨absent, distinct⟩ := List.nodup_cons.mp distinct
    rw [List.foldl_cons, ih distinct, List.getElem?_modify]
    by_cases same : i = j
    · subst same
      cases rows[i]? <;> simp [absent]
    · simp [same, Ne.symm same]

/-- A write that meets a condition only where the row did before. -/
theorem countP_set_le {p : α → Bool} {rows : List α} {i : Nat} {old new : α}
    (found : rows[i]? = some old) (only : p new = true → p old = true) :
    (rows.set i new).countP p ≤ rows.countP p := by
  obtain ⟨bound, rfl⟩ := List.getElem?_eq_some_iff.mp found
  have counted : p rows[i] = true → 0 < rows.countP p := fun holds =>
    List.countP_pos_iff.mpr ⟨_, List.getElem_mem bound, holds⟩
  rw [List.countP_set bound]
  cases new : p new with
  | true =>
    have holds := only new
    have := counted holds
    simp only [holds, ↓reduceIte]
    omega
  | false => simp

theorem countP_set_le_one {p : α → Bool} {rows : List α} {i : Nat} {new : α}
    (none : rows.countP p = 0) : (rows.set i new).countP p ≤ 1 := by
  by_cases bound : i < rows.length
  · rw [List.countP_set bound, none]
    split <;> split <;> omega
  · rw [List.set_eq_of_length_le (by omega), none]
    omega

/-- Two rows that meet a condition count as two. -/
theorem two_le_countP {p : α → Bool} {rows : List α} {i j : Nat} {row other : α} (order : i < j)
    (found : rows[i]? = some row) (there : rows[j]? = some other) (first : p row = true)
    (second : p other = true) : 2 ≤ rows.countP p := by
  have before : 0 < (rows.take (i + 1)).countP p := by
    refine List.countP_pos_iff.mpr ⟨row, List.mem_of_getElem? (i := i) ?_, first⟩
    rw [List.getElem?_take_of_lt (by omega), found]
  have after : 0 < (rows.drop (i + 1)).countP p := by
    refine List.countP_pos_iff.mpr ⟨other, List.mem_of_getElem? (i := j - (i + 1)) ?_, second⟩
    rw [List.getElem?_drop, Nat.add_sub_of_le (by omega), there]
  have split : rows.countP p = (rows.take (i + 1)).countP p + (rows.drop (i + 1)).countP p := by
    rw [← List.countP_append, List.take_append_drop]
  omega

/-- A pass that makes rows meet a condition only where they did before. -/
theorem countP_mapIdx_le {p : α → Bool} {f : Nat → α → α}
    (only : ∀ i row, p (f i row) = true → p row = true) (rows : List α) :
    (rows.mapIdx f).countP p ≤ rows.countP p := by
  induction rows generalizing f with
  | nil => simp
  | cons row rows ih =>
    have rest : (rows.mapIdx fun i => f (i + 1)).countP p ≤ rows.countP p :=
      ih fun i other => only (i + 1) other
    rw [List.mapIdx_cons, List.countP_cons, List.countP_cons]
    have head := only 0 row
    cases now : p (f 0 row) with
    | true =>
      simp only [head now, ↓reduceIte]
      omega
    | false =>
      simp only [Bool.false_eq_true, ↓reduceIte]
      omega

end Writes

section PrimaryKey
variable {κ : Type*} {α : Type*} [DecidableEq κ] (key : α → κ)

/-- The row under a unique key. -/
def get (rows : List α) (k : κ) : Option α := rows.find? fun row => key row = k

variable {key} {rows : List α} {k : κ} {row : α}

theorem get_key (found : get key rows k = some row) : key row = k := by
  have := List.find?_some found
  simpa using this

theorem get_mem (found : get key rows k = some row) : row ∈ rows := List.mem_of_find?_eq_some found

variable (key) in
theorem get_isSome (member : row ∈ rows) : ∃ found, get key rows (key row) = some found := by
  refine Option.isSome_iff_exists.mp ?_
  rw [get, List.find?_isSome]
  exact ⟨row, member, decide_eq_true rfl⟩

/-- Under a unique key the rows are what is found under their keys. -/
theorem get_of_mem (unique : (rows.map key).Nodup) (member : row ∈ rows) :
    get key rows (key row) = some row := by
  induction rows with
  | nil => cases member
  | cons first rest ih =>
    rw [List.map_cons, List.nodup_cons] at unique
    obtain ⟨absent, unique⟩ := unique
    by_cases same : key first = key row
    · obtain rfl | member := List.mem_cons.mp member
      · simp [get]
      · exact absurd (List.mem_map.mpr ⟨row, member, same.symm⟩) absent
    · have member : row ∈ rest := by
        obtain rfl | member := List.mem_cons.mp member
        · exact absurd rfl same
        · exact member
      have found := ih unique member
      simp only [get, List.find?_cons, same, decide_false] at found ⊢
      exact found

theorem get_inj (unique : (rows.map key).Nodup) {other : α} (member : row ∈ rows)
    (there : other ∈ rows) (same : key row = key other) : row = other := by
  have first := get_of_mem unique member
  have second := get_of_mem unique there
  rw [same, second] at first
  exact (Option.some.inj first).symm

/-- A pass that keeps the keys changes what is found, and where it is found not. -/
theorem get_map {f : α → α} (keeps : ∀ row, key (f row) = key row) (rows : List α) (k : κ) :
    get key (rows.map f) k = (get key rows k).map f := by
  induction rows with
  | nil => rfl
  | cons first rest ih =>
    by_cases same : key first = k
    · simp [get, keeps, same]
    · simp only [get, List.map_cons, List.find?_cons, keeps, same, decide_false] at ih ⊢
      exact ih

omit [DecidableEq κ] in
/-- A row under a new key. -/
theorem keys_snoc (unique : (rows.map key).Nodup) (fresh : key row ∉ rows.map key) :
    ((rows ++ [row]).map key).Nodup := by
  rw [List.map_append]
  refine List.nodup_append.mpr ⟨unique, List.pairwise_singleton .., ?_⟩
  rintro k member other last rfl
  rw [List.map_cons, List.map_nil, List.mem_singleton] at last
  exact fresh (last ▸ member)

omit [DecidableEq κ] in
theorem keys_map {f : α → α} (keeps : ∀ row, key (f row) = key row) (rows : List α) :
    (rows.map f).map key = rows.map key := by
  rw [List.map_map]
  exact List.map_congr_left fun row _ => keeps row

end PrimaryKey

section Update
variable {κ : Type*} {α : Type*} [DecidableEq κ]

/-- Change the row under a unique key. -/
def update (key : α → κ) (rows : List α) (k : κ) (f : α → α) : List α :=
  rows.map fun row => if key row = k then f row else row

variable {key : α → κ} {rows : List α} {k : κ} {f : α → α}

theorem mem_update {row : α} :
    row ∈ update key rows k f ↔
      (∃ old ∈ rows, key old = k ∧ row = f old) ∨ row ∈ rows ∧ key row ≠ k := by
  rw [update, List.mem_map]
  constructor
  · rintro ⟨old, member, rfl⟩
    by_cases same : key old = k
    · exact Or.inl ⟨old, member, same, if_pos same⟩
    · rw [if_neg same]
      exact Or.inr ⟨member, same⟩
  · rintro (⟨old, member, same, rfl⟩ | ⟨member, differs⟩)
    · exact ⟨old, member, if_pos same⟩
    · exact ⟨row, member, if_neg differs⟩

/-- The last row alone has its key. -/
theorem update_snoc {row : α} (same : key row = k) (fresh : k ∉ rows.map key) :
    update key (rows ++ [row]) k f = rows ++ [f row] := by
  rw [update, List.map_append, List.map_cons, List.map_nil, if_pos same]
  refine congrArg (· ++ [f row]) ((List.map_congr_left fun other member => ?_).trans (List.map_id _))
  rw [if_neg fun one => fresh (List.mem_map.mpr ⟨other, member, one⟩)]
  rfl

/-- Under a unique key one row changes. -/
theorem mem_update_row (unique : (rows.map key).Nodup) {row : α} (there : row ∈ rows) {a : α} :
    a ∈ update key rows (key row) f ↔ a = f row ∨ a ∈ rows ∧ key a ≠ key row := by
  rw [mem_update]
  constructor
  · rintro (⟨old, member, same, rfl⟩ | kept)
    · rw [get_inj unique member there same]
      exact Or.inl rfl
    · exact Or.inr kept
  · rintro (rfl | kept)
    · exact Or.inl ⟨row, there, rfl, rfl⟩
    · exact Or.inr kept

theorem get_update (keeps : ∀ row, key (f row) = key row) (j : κ) :
    get key (update key rows k f) j = (get key rows j).map fun row => if j = k then f row else row := by
  have kept : ∀ row, key (if key row = k then f row else row) = key row := by
    intro row
    split
    · exact keeps row
    · rfl
  rw [update, get_map kept]
  cases there : get key rows j with
  | none => rfl
  | some row =>
    have same := get_key there
    subst same
    rfl

/-- A column that an update does not write. -/
theorem map_update {β : Type*} (column : α → β) (keeps : ∀ row, column (f row) = column row) :
    (update key rows k f).map column = rows.map column := by
  rw [update, List.map_map]
  refine List.map_congr_left fun row _ => ?_
  rw [Function.comp_apply]
  split
  · exact keeps row
  · rfl

end Update

section Constraint
variable {ι : Type*} {κ : Type*} {α : Type*} [DecidableEq ι] [DecidableEq κ] (id : α → ι)
  (unique : α → κ) (change : α → α)

/-- Updates of single rows by primary key, in the given order; each is checked
against the unique key as the rows then are. -/
def updateEach : List ι → List α → Option (List α)
  | [], rows => some rows
  | i :: ids, rows =>
    match get id rows i with
    | none => updateEach ids rows
    | some row =>
      if rows.any fun other => id other ≠ i && unique other = unique (change row) then none
      else updateEach ids (rows.map fun row => if id row = i then change row else row)

variable {id unique change} {ids : List ι} {rows : List α}

/-- Updates that succeed changed their rows and no others. -/
theorem updateEach_eq (keeps : ∀ row, id (change row) = id row) (distinct : ids.Nodup)
    {left : List α} (updated : updateEach id unique change ids rows = some left) :
    left = rows.map fun row => if id row ∈ ids then change row else row := by
  induction ids generalizing rows with
  | nil =>
    cases updated
    simp
  | cons i ids ih =>
    obtain ⟨absent, distinct⟩ := List.nodup_cons.mp distinct
    rw [updateEach] at updated
    split at updated
    · rename_i missing
      rw [ih distinct updated]
      refine List.map_congr_left fun row member => ?_
      have differs : id row ≠ i := by
        intro same
        obtain ⟨found, there⟩ := get_isSome id member
        rw [same, missing] at there
        cases there
      simp [differs]
    · split at updated
      · cases updated
      · rw [ih distinct updated, List.map_map]
        refine List.map_congr_left fun row _ => ?_
        by_cases same : id row = i
        · simp [same, keeps, absent]
        · simp [same]

/-- When each updated row gets a key of its own, the updates succeed just if a
key they write is held only by rows updated before. -/
theorem updateEach_isSome [LinearOrder ι] (keeps : ∀ row, id (change row) = id row)
    (apart : ∀ row other, id row ≠ id other → unique (change row) ≠ unique (change other))
    (sorted : ids.Pairwise (· < ·)) :
    (updateEach id unique change ids rows).isSome = true ↔
      ∀ row, get id rows (id row) = some row → id row ∈ ids → ∀ other ∈ rows, id other ≠ id row →
        unique other = unique (change row) → id other ∈ ids ∧ id other < id row := by
  induction ids generalizing rows with
  | nil => simp [updateEach]
  | cons i ids ih =>
    obtain ⟨least, sorted⟩ := List.pairwise_cons.mp sorted
    rw [updateEach]
    split
    · rename_i missing
      rw [ih sorted]
      constructor
      · intro clear row found member other there differs same
        obtain rfl | member := List.mem_cons.mp member
        · rw [missing] at found
          cases found
        · obtain ⟨listed, before⟩ := clear row found member other there differs same
          exact ⟨List.mem_cons_of_mem _ listed, before⟩
      · intro clear row found member other there differs same
        obtain ⟨listed, before⟩ := clear row found (List.mem_cons_of_mem _ member) other there differs same
        obtain rfl | listed := List.mem_cons.mp listed
        · obtain ⟨row', there'⟩ := get_isSome id there
          rw [missing] at there'
          cases there'
        · exact ⟨listed, before⟩
    · rename_i first found
      have key := get_key found
      have updated : ∀ k, get id (rows.map fun row => if id row = i then change row else row) k =
          (get id rows k).map fun row => if id row = i then change row else row := by
        intro k
        refine get_map (fun row => ?_) rows k
        split
        · exact keeps row
        · rfl
      split
      · rename_i taken
        obtain ⟨other, there, holds⟩ := List.any_eq_true.mp taken
        simp only [ne_eq, Bool.and_eq_true, decide_eq_true_eq] at holds
        simp only [Option.isSome_none, Bool.false_eq_true, false_iff]
        intro clear
        obtain ⟨listed, before⟩ := clear first (by rw [key]; exact found) (by rw [key]; exact List.mem_cons_self)
          other there (by rw [key]; exact holds.1) holds.2
        rw [key] at before
        obtain same | listed := List.mem_cons.mp listed
        · exact holds.1 same
        · exact lt_asymm before (least _ listed)
      · rename_i free
        rw [ih sorted]
        constructor
        · intro clear row there member other among differs same
          obtain this | member := List.mem_cons.mp member
          · rw [this, found] at there
            cases there
            refine absurd ?_ free
            refine List.any_eq_true.mpr ⟨other, among, ?_⟩
            simp [same, this ▸ differs]
          · have later : id row ≠ i := ne_of_gt (least _ member)
            by_cases head : id other = i
            · rw [head]
              exact ⟨List.mem_cons_self, least _ member⟩
            · have there' := updated (id row)
              rw [there, Option.map_some, if_neg later] at there'
              obtain ⟨listed, before⟩ := clear row there' member other
                (List.mem_map.mpr ⟨other, among, by simp [head]⟩) differs same
              exact ⟨List.mem_cons_of_mem _ listed, before⟩
        · intro clear row there member other among differs same
          have later : id row ≠ i := ne_of_gt (least _ member)
          rw [updated, Option.map_eq_some_iff] at there
          obtain ⟨row', there, eq⟩ := there
          have same' : id row' = id row := get_key there
          rw [if_neg (by rw [same']; exact later)] at eq
          subst eq
          obtain ⟨other', inside, eq⟩ := List.mem_map.mp among
          by_cases head : id other' = i
          · rw [if_pos head] at eq
            subst eq
            exact absurd same (apart other' row' (by rw [head]; exact Ne.symm later))
          · rw [if_neg head] at eq
            subst eq
            obtain ⟨listed, before⟩ := clear row' there (List.mem_cons_of_mem _ member) other' inside differs same
            obtain this | listed := List.mem_cons.mp listed
            · exact absurd this head
            · exact ⟨listed, before⟩

end Constraint

section Keyed
variable {κ : Type*} {α : Type*} [DecidableEq κ] (key : α → κ) (fresh : κ → α)

/-- The row under `k`, or the row that would be created for it. -/
def lookup (rows : List α) (k : κ) : α := (rows.find? (fun r => key r = k)).getD (fresh k)

/-- Create the row under `k` if it is missing, then change it. -/
def upsert (k : κ) (f : α → α) : List α → List α
  | [] => [f (fresh k)]
  | r :: rows => if key r = k then f r :: rows else r :: upsert k f rows

variable {key fresh}

@[simp] theorem lookup_nil (k : κ) : lookup key fresh [] k = fresh k := rfl

theorem lookup_cons (r : α) (rows : List α) (k : κ) :
    lookup key fresh (r :: rows) k = if key r = k then r else lookup key fresh rows k := by
  by_cases h : key r = k <;> simp [lookup, h]

theorem key_lookup (hf : ∀ k, key (fresh k) = k) (rows : List α) (k : κ) :
    key (lookup key fresh rows k) = k := by
  induction rows with
  | nil => exact hf k
  | cons r rows ih =>
    rw [lookup_cons]
    split
    · assumption
    · exact ih

/-- A write under `k` is seen under `k` and nowhere else. -/
theorem lookup_upsert (hf : ∀ k, key (fresh k) = k) {f : α → α} (hk : ∀ r, key (f r) = key r)
    (rows : List α) (k j : κ) :
    lookup key fresh (upsert key fresh k f rows) j =
      if j = k then f (lookup key fresh rows k) else lookup key fresh rows j := by
  induction rows with
  | nil =>
    simp only [upsert, lookup_cons, lookup_nil, hk, hf]
    by_cases h : j = k
    · simp [h]
    · simp [h, Ne.symm h]
  | cons r rows ih =>
    by_cases hr : key r = k
    · simp only [upsert, hr, ↓reduceIte, lookup_cons, hk]
      by_cases h : j = k
      · simp [h]
      · simp [h, Ne.symm h]
    · simp only [upsert, hr, ↓reduceIte, lookup_cons, ih]
      by_cases h : j = k
      · simp [h, hr]
      · simp [h]

variable (key fresh) in
/-- A write under `k` changes a sum by what it does to the row under `k`. -/
theorem sum_upsert {β : Type*} [AddCommGroup β] (w : α → β) (hw : ∀ k, w (fresh k) = 0)
    (k : κ) (f : α → α) (rows : List α) :
    ((upsert key fresh k f rows).map w).sum =
      (rows.map w).sum + (w (f (lookup key fresh rows k)) - w (lookup key fresh rows k)) := by
  induction rows with
  | nil => simp [upsert, hw]
  | cons r rows ih =>
    by_cases hr : key r = k
    · simp only [upsert, hr, ↓reduceIte, lookup_cons, List.map_cons, List.sum_cons]
      abel
    · simp only [upsert, hr, ↓reduceIte, lookup_cons, List.map_cons, List.sum_cons, ih]
      abel

end Keyed

end Table
