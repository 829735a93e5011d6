import RankRent.Library.Table

/-!
# Files of a directory tree

The regular files of a file system under their paths. The order of the list is
the order in which directories are listed, so a statement about every list is
one about every such order. A program's writes are single operations, so that
it can be stopped between any two.
-/

namespace Files

/-- The components of a path. -/
abbrev Path := List String

/-- Files with their text. -/
abbrev Tree := List (Path × String)

def read (tree : Tree) (path : Path) : Option String := (Table.get Prod.fst tree path).map Prod.snd

/-- The paths below a directory, relative to it, with their text. -/
def below (directory : Path) (tree : Tree) : Tree :=
  tree.filterMap fun file =>
    if directory <+: file.1 then some (file.1.drop directory.length, file.2) else none

inductive Op
  | remove (path : Path)
  | write (path : Path) (text : String)
  deriving DecidableEq

def Op.path : Op → Path
  | .remove path => path
  | .write path _ => path

def Op.run (tree : Tree) : Op → Tree
  | .remove path => tree.filter fun file => file.1 ≠ path
  | .write path text => tree.filter (fun file => file.1 ≠ path) ++ [(path, text)]

def runAll (tree : Tree) (ops : List Op) : Tree := ops.foldl Op.run tree

/-- `write_text`: the file is truncated, then filled. -/
def writeText (path : Path) (text : String) : List Op := [.write path "", .write path text]

/-- `shutil.rmtree`. -/
def removeTree (directory : Path) (tree : Tree) : List Op :=
  (below directory tree).map fun file => .remove (directory ++ file.1)

/-- `shutil.copytree`. -/
def copyTree (source destination : Path) (tree : Tree) : List Op :=
  (below source tree).flatMap fun file => writeText (destination ++ file.1) file.2

/-- Write each file of a tree below a directory. -/
def writeTree (directory : Path) (files : Tree) : List Op :=
  files.flatMap fun file => writeText (directory ++ file.1) file.2

theorem copyTree_eq (source destination : Path) (tree : Tree) :
    copyTree source destination tree = writeTree destination (below source tree) := rfl

/-! ## What is read after a write -/

/-- What an operation leaves at its path. -/
def Op.text : Op → Option String
  | .remove _ => none
  | .write _ text => some text

section Reads
variable {tree : Tree} {path : Path} {op : Op} {ops : List Op} {text : String}

theorem read_filter (p : Path) :
    read (tree.filter fun file => file.1 ≠ p) path = if p = path then none else read tree path := by
  induction tree with
  | nil => simp [read, Table.get]
  | cons file rest ih =>
    rw [List.filter_cons]
    by_cases removed : file.1 = p
    · simp only [removed, ne_eq, not_true_eq_false, decide_false, Bool.false_eq_true, ↓reduceIte] at ih ⊢
      rw [ih]
      by_cases same : p = path
      · rw [if_pos same, if_pos same]
      · simp [read, Table.get, removed, same]
    · simp only [ne_eq, removed, not_false_eq_true, decide_true, ↓reduceIte] at ih ⊢
      by_cases here : file.1 = path
      · have differs : p ≠ path := fun same => removed (here.trans same.symm)
        simp [read, Table.get, here, differs]
      · simp only [read, Table.get, List.find?_cons, here, decide_false] at ih ⊢
        exact ih

@[simp] theorem read_run : read (op.run tree) path = if op.path = path then op.text else read tree path := by
  cases op with
  | remove p => exact read_filter p
  | write p text =>
    have kept : read (tree.filter fun file => file.1 ≠ p) path = if p = path then none else read tree path :=
      read_filter p
    rw [Op.run, read, Table.get, List.find?_append]
    rw [read, Table.get] at kept
    by_cases same : p = path
    · rw [if_pos same] at kept
      rw [Option.map_eq_none_iff.mp kept]
      simp [Op.path, Op.text, same]
    · rw [if_neg same] at kept
      simp only [Op.path, same, if_false, ← kept]
      simp [same]

theorem runAll_cons : runAll tree (op :: ops) = runAll (op.run tree) ops := rfl

theorem runAll_append (ops' : List Op) : runAll tree (ops ++ ops') = runAll (runAll tree ops) ops' :=
  List.foldl_append

/-- A path that no operation names keeps its file. -/
theorem read_untouched (untouched : ∀ op ∈ ops, op.path ≠ path) :
    read (runAll tree ops) path = read tree path := by
  induction ops generalizing tree with
  | nil => rfl
  | cons op rest ih =>
    rw [runAll_cons, ih fun op member => untouched op (List.mem_cons_of_mem _ member), read_run,
      if_neg (untouched op List.mem_cons_self)]

@[simp] theorem read_writeText (p : Path) :
    read (runAll tree (writeText p text)) path = if p = path then some text else read tree path := by
  rw [writeText, runAll_cons, runAll_cons, runAll, List.foldl_nil, read_run, read_run]
  by_cases same : p = path <;> simp [Op.path, Op.text, same]

/-- One text for many files. -/
theorem read_writeText_each (paths : List Path) :
    read (runAll tree (paths.flatMap fun p => writeText p text)) path =
      if path ∈ paths then some text else read tree path := by
  induction paths generalizing tree with
  | nil => simp [runAll]
  | cons p rest ih =>
    rw [List.flatMap_cons, runAll_append, ih, read_writeText]
    by_cases later : path ∈ rest
    · simp [later]
    · simp [later, eq_comm]

theorem read_remove_each (paths : List Path) :
    read (runAll tree (paths.map .remove)) path = if path ∈ paths then none else read tree path := by
  induction paths generalizing tree with
  | nil => simp [runAll]
  | cons p rest ih =>
    rw [List.map_cons, runAll_cons, ih, read_run]
    by_cases later : path ∈ rest
    · simp [later]
    · simp [later, Op.path, Op.text, eq_comm]

theorem read_none : read tree path = none ↔ path ∉ tree.map Prod.fst := by
  rw [read, Option.map_eq_none_iff, Table.get, List.find?_eq_none]
  constructor
  · intro none member
    obtain ⟨file, inside, rfl⟩ := List.mem_map.mp member
    simpa using none file inside
  · intro absent file inside same
    exact absent (List.mem_map.mpr ⟨file, inside, by simpa using same⟩)

end Reads

/-! ## Directories -/

section Directories
variable {tree : Tree} {directory source destination : Path} {path : Path}

/-- No two files of a tree have one path. -/
theorem runAll_unique (unique : (tree.map Prod.fst).Nodup) (ops : List Op) :
    ((runAll tree ops).map Prod.fst).Nodup := by
  induction ops generalizing tree with
  | nil => exact unique
  | cons op rest ih =>
    refine ih ?_
    have kept : ∀ p, ((tree.filter fun file => file.1 ≠ p).map Prod.fst).Nodup := fun p =>
      (List.filter_sublist.map Prod.fst).nodup unique
    cases op with
    | remove p => exact kept p
    | write p text =>
      refine Table.keys_snoc (kept p) ?_
      simp

/-- A file was there or was written. -/
theorem mem_runAll {ops : List Op} (member : path ∈ (runAll tree ops).map Prod.fst) :
    path ∈ tree.map Prod.fst ∨ ∃ text, Op.write path text ∈ ops := by
  induction ops generalizing tree with
  | nil => exact Or.inl member
  | cons op rest ih =>
    have filtered : ∀ p, path ∈ (tree.filter fun file => file.1 ≠ p).map Prod.fst →
        path ∈ tree.map Prod.fst := fun p inside => (List.filter_sublist.map Prod.fst).subset inside
    obtain before | ⟨text, later⟩ := ih member
    · cases op with
      | remove p => exact Or.inl (filtered p before)
      | write p text =>
        rw [Op.run, List.map_append, List.mem_append, List.map_cons, List.map_nil,
          List.mem_singleton] at before
        obtain before | rfl := before
        · exact Or.inl (filtered p before)
        · exact Or.inr ⟨text, List.mem_cons_self⟩
    · exact Or.inr ⟨text, List.mem_cons_of_mem _ later⟩

theorem read_below : read (below directory tree) path = read tree (directory ++ path) := by
  induction tree with
  | nil => rfl
  | cons file rest ih =>
    rw [below, List.filterMap_cons]
    by_cases inside : directory <+: file.1
    · obtain ⟨rel, same⟩ := inside
      have drop : file.1.drop directory.length = rel := by rw [← same, List.drop_left]
      rw [if_pos ⟨rel, same⟩, drop]
      simp only [read, Table.get, List.find?_cons, below] at ih ⊢
      by_cases here : rel = path
      · simp [← same, here]
      · simp only [here, ← same, List.append_cancel_left_eq, decide_false]
        exact ih
    · rw [if_neg inside]
      have differs : file.1 ≠ directory ++ path := fun same => inside ⟨path, same.symm⟩
      simp only [read, Table.get, List.find?_cons, below, differs, decide_false] at ih ⊢
      exact ih

theorem below_unique (unique : (tree.map Prod.fst).Nodup) :
    ((below directory tree).map Prod.fst).Nodup := by
  rw [List.nodup_iff_pairwise_ne, List.pairwise_map] at unique ⊢
  rw [below, List.pairwise_filterMap]
  refine unique.imp fun {file other} apart found first found' second same => ?_
  split at first
  · split at second
    · rename_i inside among
      cases first
      cases second
      obtain ⟨rel, eq⟩ := inside
      obtain ⟨rel', eq'⟩ := among
      simp only [← eq, ← eq', List.drop_left] at same
      exact apart (by rw [← eq, ← eq', same])
    · cases second
  · cases first

theorem removeTree_eq : removeTree directory tree =
    ((below directory tree).map fun file => directory ++ file.1).map .remove := by
  rw [removeTree, List.map_map]
  rfl

theorem removeTree_path {op : Op} (member : op ∈ removeTree directory tree) :
    ∃ rel, op = .remove (directory ++ rel) ∧ read tree (directory ++ rel) ≠ none := by
  obtain ⟨file, inside, rfl⟩ := List.mem_map.mp member
  refine ⟨file.1, rfl, fun none => ?_⟩
  rw [← read_below, read_none] at none
  exact none (List.mem_map.mpr ⟨file, inside, rfl⟩)

theorem writeTree_path {files : Tree} {op : Op} (member : op ∈ writeTree directory files) :
    ∃ rel ∈ files.map Prod.fst, op.path = directory ++ rel := by
  obtain ⟨file, inside, written⟩ := List.mem_flatMap.mp member
  refine ⟨file.1, List.mem_map.mpr ⟨file, inside, rfl⟩, ?_⟩
  simp only [writeText, List.mem_cons, List.not_mem_nil, or_false] at written
  obtain rfl | rfl := written <;> rfl

/-- A removed directory is empty. -/
theorem read_removeTree : read (runAll tree (removeTree directory tree)) (directory ++ path) = none := by
  rw [removeTree_eq, read_remove_each]
  split
  · rfl
  · rename_i absent
    rw [← read_below, read_none]
    intro member
    obtain ⟨file, inside, rfl⟩ := List.mem_map.mp member
    exact absent (List.mem_map.mpr ⟨file, inside, rfl⟩)

/-- A written directory holds the files written, over those that were there. -/
theorem read_writeTree {files : Tree} (unique : (files.map Prod.fst).Nodup) :
    read (runAll tree (writeTree directory files)) (directory ++ path) =
      (read files path).or (read tree (directory ++ path)) := by
  induction files generalizing tree with
  | nil => rfl
  | cons file rest ih =>
    rw [List.map_cons, List.nodup_cons] at unique
    rw [writeTree, List.flatMap_cons, runAll_append]
    rw [writeTree] at ih
    rw [ih unique.2, read_writeText]
    by_cases here : file.1 = path
    · subst here
      rw [read_none.mpr unique.1]
      simp [read, Table.get]
    · simp [read, Table.get, here]

end Directories

end Files
