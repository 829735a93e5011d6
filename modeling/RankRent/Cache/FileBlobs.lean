import RankRent.Cache.Blobs
import RankRent.Library.CreateOnce

/-!
# Blobs in files, put at the same time

`FilesystemBlobStore` of `storage/blobs.py` with each access to the file system
as a step of its own. A temporary file stands beside the blobs while a put has it.
-/

namespace RankRent.Cache
open CreateOnce (Outcome Call View Move CreatesOnce)

/-- The components of a path below the root. -/
abbrev BlobPath := List String

structure FileTree where
  files : BlobFiles
  directories : List BlobPath

/-- The statement of `put` that comes next; `temporary` is its temporary file. -/
inductive PutPhase
  | lookup
  | compare
  | stat
  | makeParent
  | makeTemporary
  | write (temporary : BlobPath)
  | link (temporary : BlobPath)
  | compareLinked (temporary : BlobPath)
  | unlink (temporary : BlobPath) (succeeds : Bool)
  | returned
  | raised
  deriving DecidableEq

def PutPhase.temporary? : PutPhase → Option BlobPath
  | .write temporary | .link temporary | .compareLinked temporary | .unlink temporary _ => some temporary
  | _ => none

/-- The phases that read the checksum of what stands at the path. -/
def PutPhase.compares : PutPhase → Bool
  | .compare | .compareLinked _ => true
  | _ => false

def PutPhase.outcome : PutPhase → Outcome
  | .stat => .matched
  | .unlink _ true => .bound
  | .returned => .succeeded
  | .raised => .failed
  | _ => .undecided

/-- A call of `put`. -/
structure FilePut where
  path : BlobPath
  data : List UInt8
  phase : PutPhase

structure FileState where
  tree : FileTree
  puts : List FilePut

/-- `path.exists()`. -/
def FileTree.occupied (tree : FileTree) (path : BlobPath) : Bool :=
  path.isEmpty || tree.directories.contains path || (tree.files.lookup path).isSome

/-- A file stands where `mkdir` needs a directory. -/
def FileTree.obstructed (tree : FileTree) (path : BlobPath) : Bool :=
  tree.files.any fun file => file.1.isPrefixOf path.dropLast

/-- `path.parent.mkdir(parents=True, exist_ok=True)` where nothing obstructs it. -/
def FileTree.makeParent (tree : FileTree) (path : BlobPath) : FileTree :=
  { tree with directories := tree.directories ++ path.dropLast.inits }

/-- The name that `mkstemp` makes of its random characters. -/
def temporaryPath (path : BlobPath) (random : String) : BlobPath :=
  path.dropLast ++ ["." ++ path.getLastD "" ++ "." ++ random]

/-- `self.checksum(key) != expected_checksum` does not hold; without a file it raises. -/
def sameChecksum (data : List UInt8) : Option (List UInt8) → Bool
  | some old => Sha256.hexdigestBytes old = Sha256.hexdigestBytes data
  | none => false

/-- The next statement of a put; `random` is what `mkstemp` draws. -/
def FilePut.advance (put : FilePut) (tree : FileTree) (random : String) : FileTree × PutPhase :=
  match put.phase with
  | .lookup => (tree, if tree.occupied put.path then .compare else .makeParent)
  | .compare => (tree, if sameChecksum put.data (tree.files.lookup put.path) then .stat else .raised)
  | .stat => (tree, if tree.occupied put.path then .returned else .raised)
  | .makeParent => if tree.obstructed put.path then (tree, .raised) else (tree.makeParent put.path, .makeTemporary)
  | .makeTemporary =>
    let temporary := temporaryPath put.path random
    -- `mkstemp` draws again where the name is taken.
    if tree.occupied temporary then (tree, .makeTemporary)
    else ({ tree with files := tree.files ++ [(temporary, [])] }, .write temporary)
  | .write temporary =>
    ({ tree with files := tree.files.map fun file => if file.1 = temporary then (temporary, put.data) else file },
      .link temporary)
  | .link temporary =>
    match tree.files.lookup temporary with
    | none => (tree, .unlink temporary false)
    | some content =>
      if tree.occupied put.path then (tree, .compareLinked temporary)
      else ({ tree with files := tree.files ++ [(put.path, content)] }, .unlink temporary true)
  | .compareLinked temporary =>
    (tree, .unlink temporary (sameChecksum put.data (tree.files.lookup put.path)))
  | .unlink temporary succeeds =>
    ({ tree with files := tree.files.filter fun file => file.1 ≠ temporary },
      if succeeds then .returned else .raised)
  | .returned => (tree, .returned)
  | .raised => (tree, .raised)

/-- An error of the file system at the next statement; the `finally` still runs. -/
def PutPhase.fail : PutPhase → PutPhase
  | .write temporary | .link temporary | .compareLinked temporary => .unlink temporary false
  | .returned => .returned
  | _ => .raised

inductive FileLabel
  | put (key : String) (data : List UInt8)
  | get (key : String)
  | delete (key : String)
  | advance (put : Nat) (random : String)
  | fail (put : Nat)

def FileState.step (s : FileState) : FileLabel → FileState
  | .put key data =>
    match safeRelativeKey key with
    | none => { s with puts := s.puts ++ [⟨[], data, .raised⟩] }
    | some path => { s with puts := s.puts ++ [⟨path, data, .lookup⟩] }
  | .get _ => s
  | .delete key =>
    match safeRelativeKey key with
    | none => s
    | some path => { s with tree.files := s.tree.files.filter fun file => file.1 ≠ path }
  | .advance i random =>
    match s.puts[i]? with
    | none => s
    | some put =>
      let (tree, phase) := put.advance s.tree random
      ⟨tree, s.puts.set i { put with phase }⟩
  | .fail i =>
    match s.puts[i]? with
    | none => s
    | some put => { s with puts := s.puts.set i { put with phase := put.phase.fail } }

/-- A put still has the temporary file at the path. -/
def FileState.live (s : FileState) (path : BlobPath) : Bool :=
  s.puts.any fun put => put.phase.temporary? = some path

/-- The blobs: the files that are not temporary. -/
def FileState.stored (s : FileState) (path : BlobPath) : Option (List UInt8) :=
  if s.live path then none else s.tree.files.lookup path

def fileView : View FileState FileLabel BlobPath (List UInt8) where
  step := FileState.step
  stored := FileState.stored
  calls s := s.puts.map fun put => ⟨put.path, put.data, put.phase.outcome⟩
  removes
    | .delete key => safeRelativeKey key
    | _ => none
  mover
    | .advance i _ | .fail i => some i
    | _ => none

/-- No checksum read of a put, and no delete, is of a temporary file that a put
has, and no put fails to take its own away. -/
def fileOk (contents : Set (List UInt8)) (s : FileState) : FileLabel → Prop
  | .put _ data => data ∈ contents
  | .get _ => True
  | .delete key => ∀ path, safeRelativeKey key = some path → s.live path = false
  | .advance i _ => ∀ put, s.puts[i]? = some put → put.phase.compares → s.live put.path = false
  | .fail i => ∀ put, s.puts[i]? = some put → ∀ temporary succeeds, put.phase ≠ .unlink temporary succeeds

/-! ## What is stored by path -/

section Lookups
variable {κ α : Type} [BEq κ] [LawfulBEq κ] [DecidableEq κ] {files : List (κ × α)} {path : κ} {content : α}

theorem lookup_link (absent : files.lookup path = none) (q : κ) :
    (files ++ [(path, content)]).lookup q = if q = path then some content else files.lookup q := by
  rw [List.lookup_append]
  by_cases same : q = path
  · subst same
    simp [absent]
  · simp [same, List.lookup_cons, beq_false_of_ne same]

theorem lookup_unlink (files : List (κ × α)) (path q : κ) :
    (files.filter fun file => file.1 ≠ path).lookup q = if q = path then none else files.lookup q := by
  induction files with
  | nil => simp
  | cons file files ih =>
    by_cases gone : file.1 = path
    · rw [List.filter_cons_of_neg (by simpa using gone), ih, List.lookup_cons, gone]
      by_cases same : q = path
      · simp [same]
      · simp [same, beq_false_of_ne same]
    · rw [List.filter_cons_of_pos (by simpa using gone), List.lookup_cons, List.lookup_cons, ih]
      by_cases same : q = path
      · subst same
        simp [beq_false_of_ne (Ne.symm gone)]
      · simp [same]

theorem lookup_write (files : List (κ × α)) (path q : κ) (content : α) :
    (files.map fun file => if file.1 = path then (path, content) else file).lookup q =
      if q = path then (files.lookup q).map fun _ => content else files.lookup q := by
  induction files with
  | nil => simp
  | cons file files ih =>
    rw [List.map_cons, List.lookup_cons, List.lookup_cons, ih]
    by_cases here : file.1 = path
    · by_cases same : q = path
      · simp [here, same]
      · simp [here, same, beq_false_of_ne same]
    · by_cases same : q = path
      · subst same
        simp [here, beq_false_of_ne (Ne.symm here)]
      · simp [here, same]

end Lookups

theorem FileTree.absent {tree : FileTree} {path : BlobPath} (free : tree.occupied path = false) :
    tree.files.lookup path = none := by
  simp only [FileTree.occupied, Bool.or_eq_false_iff] at free
  simpa using free.2

/-! ## What a put does -/

/-- A put that goes from `phase` to `next` on the tree. -/
inductive PutEffect (put : FilePut) (tree : FileTree) : FileTree → PutPhase → Prop
  | quiet {after : FileTree} {next : PutPhase} (files : after.files = tree.files)
      (temporary : next.temporary? = put.phase.temporary?) (linking : ∀ t, next ≠ .link t)
      (decided : put.phase.outcome.sure ∨ put.phase.outcome = .failed → next = put.phase)
      (claims : next.outcome.claims → put.phase.outcome.claims ∨
        put.phase.compares ∧ sameChecksum put.data (tree.files.lookup put.path)) :
      PutEffect put tree after next
  | made (t : BlobPath) (absent : tree.files.lookup t = none) (before : put.phase = .makeTemporary) :
      PutEffect put tree { tree with files := tree.files ++ [(t, [])] } (.write t)
  | wrote (t : BlobPath) (before : put.phase = .write t) :
      PutEffect put tree
        { tree with files := tree.files.map fun file => if file.1 = t then (t, put.data) else file } (.link t)
  | linked (t : BlobPath) (content : List UInt8) (before : put.phase = .link t)
      (there : tree.files.lookup t = some content) (absent : tree.files.lookup put.path = none) :
      PutEffect put tree { tree with files := tree.files ++ [(put.path, content)] } (.unlink t true)
  | removed (t : BlobPath) (succeeds : Bool) (before : put.phase = .unlink t succeeds) :
      PutEffect put tree { tree with files := tree.files.filter fun file => file.1 ≠ t }
        (if succeeds then .returned else .raised)

/-- A step before anything is decided. -/
theorem PutEffect.waits {put : FilePut} {tree after : FileTree} {next : PutPhase} (files : after.files = tree.files)
    (temporary : next.temporary? = put.phase.temporary?) (linking : ∀ t, next ≠ .link t)
    (open_ : put.phase.outcome = .undecided ∨ put.phase.outcome = .matched) (claims : next.outcome.claims = false) :
    PutEffect put tree after next := by
  apply PutEffect.quiet files temporary linking
  · rcases open_ with open_ | open_ <;> simp [open_, Outcome.sure]
  · simp [claims]

/-- The next statement has one of these effects. -/
theorem FilePut.advance_effect (put : FilePut) (tree : FileTree) (random : String) :
    PutEffect put tree (put.advance tree random).1 (put.advance tree random).2 := by
  obtain ⟨path, data, phase⟩ := put
  cases phase with
  | lookup =>
    simp only [FilePut.advance]
    split <;> exact .waits rfl rfl (by simp) (.inl rfl) rfl
  | compare =>
    simp only [FilePut.advance]
    split
    · rename_i same
      exact .quiet rfl rfl (by simp) (by simp [PutPhase.outcome, Outcome.sure]) fun _ => .inr ⟨rfl, same⟩
    · exact .waits rfl rfl (by simp) (.inl rfl) rfl
  | stat =>
    simp only [FilePut.advance]
    split
    · exact .quiet rfl rfl (by simp) (by simp [PutPhase.outcome, Outcome.sure]) fun _ => .inl rfl
    · exact .waits rfl rfl (by simp) (.inr rfl) rfl
  | makeParent =>
    simp only [FilePut.advance]
    split <;> exact .waits rfl rfl (by simp) (.inl rfl) rfl
  | makeTemporary =>
    simp only [FilePut.advance]
    split
    · exact .waits rfl rfl (by simp) (.inl rfl) rfl
    · rename_i free
      exact .made _ (FileTree.absent (by simpa using free)) rfl
  | write t => exact .wrote t rfl
  | link t =>
    simp only [FilePut.advance]
    cases there : tree.files.lookup t with
    | none => exact .waits rfl rfl (by simp) (.inl rfl) rfl
    | some content =>
      dsimp only
      split
      · exact .waits rfl rfl (by simp) (.inl rfl) rfl
      · rename_i free
        exact .linked t content rfl there (FileTree.absent (by simpa using free))
  | compareLinked t =>
    cases same : sameChecksum data (tree.files.lookup path) with
    | false =>
      simp only [FilePut.advance, same]
      exact .waits rfl rfl (by simp) (.inl rfl) rfl
    | true =>
      simp only [FilePut.advance, same]
      exact .quiet rfl rfl (by simp) (by simp [PutPhase.outcome, Outcome.sure]) fun _ => .inr ⟨rfl, same⟩
  | unlink t succeeds => exact .removed t succeeds rfl
  | returned => exact .quiet rfl rfl (by simp [FilePut.advance]) (fun _ => rfl) fun claims => .inl claims
  | raised => exact .quiet rfl rfl (by simp [FilePut.advance]) (fun _ => rfl) fun claims => .inl claims

/-- So has an error, unless it keeps a put from taking its temporary file away. -/
theorem PutPhase.fail_effect (put : FilePut) (tree : FileTree)
    (kept : ∀ t succeeds, put.phase ≠ .unlink t succeeds) : PutEffect put tree tree put.phase.fail := by
  obtain ⟨path, data, phase⟩ := put
  cases phase with
  | unlink t succeeds => exact absurd rfl (kept t succeeds)
  | returned => exact .quiet rfl rfl (by simp [PutPhase.fail]) (fun _ => rfl) fun claims => .inl claims
  | raised => exact .quiet rfl rfl (by simp [PutPhase.fail]) (fun _ => rfl) fun claims => .inl claims
  | stat => exact .waits rfl rfl (by simp [PutPhase.fail]) (.inr rfl) rfl
  | _ => exact .waits rfl rfl (by simp [PutPhase.fail]) (.inl rfl) rfl

/-! ## The temporary files -/

/-- Every temporary file is there, belongs to one put and has that put's data when
it is linked; every blob has data that a put was called with. -/
structure FileInv (contents : Set (List UInt8)) (s : FileState) : Prop where
  stored : ∀ {path d}, s.stored path = some d → d ∈ contents
  data : ∀ {i : Nat} {put : FilePut}, s.puts[i]? = some put → put.data ∈ contents
  held : ∀ {i : Nat} {t : BlobPath} {put : FilePut}, s.puts[i]? = some put → put.phase.temporary? = some t → (s.tree.files.lookup t).isSome
  written : ∀ {i : Nat} {t : BlobPath} {put : FilePut}, s.puts[i]? = some put → put.phase = .link t → s.tree.files.lookup t = some put.data
  own : ∀ {i j : Nat} {t : BlobPath} {put other : FilePut}, s.puts[i]? = some put → s.puts[j]? = some other →
    put.phase.temporary? = some t → other.phase.temporary? = some t → i = j

theorem FileState.live_iff {s : FileState} {t : BlobPath} :
    s.live t ↔ ∃ (i : Nat) (put : FilePut), s.puts[i]? = some put ∧ put.phase.temporary? = some t := by
  simp only [FileState.live, List.any_eq_true, List.mem_iff_getElem?, decide_eq_true_eq]
  constructor
  · rintro ⟨put, ⟨i, there⟩, has⟩
    exact ⟨i, put, there, has⟩
  · rintro ⟨i, put, there, has⟩
    exact ⟨put, ⟨i, there⟩, has⟩

theorem FileState.stored_of_live {s : FileState} {t : BlobPath} (live : s.live t) : s.stored t = none := by
  rw [FileState.stored, if_pos live]

theorem FileState.stored_of_not_live {s : FileState} {t : BlobPath} (free : ¬ s.live t) :
    s.stored t = s.tree.files.lookup t := by
  rw [FileState.stored, if_neg free]

section Moved
variable {contents : Set (List UInt8)} {s : FileState} {i : Nat} {put : FilePut} {after : FileTree}
  {next : PutPhase}

/-- The state when put `i` goes on to `next`. -/
def FileState.moved (s : FileState) (i : Nat) (put : FilePut) (after : FileTree) (next : PutPhase) : FileState :=
  ⟨after, s.puts.set i { put with phase := next }⟩

theorem moved_put (there : s.puts[i]? = some put) :
    (s.moved i put after next).puts[i]? = some { put with phase := next } := by
  obtain ⟨inside, -⟩ := List.getElem?_eq_some_iff.mp there
  simp [FileState.moved, inside]

theorem moved_other {j : Nat} (apart : j ≠ i) : (s.moved i put after next).puts[j]? = s.puts[j]? := by
  simp [FileState.moved, List.getElem?_set_ne (Ne.symm apart)]

/-- What is not put `i`'s is live as before. -/
theorem live_moved (there : s.puts[i]? = some put) {q : BlobPath}
    (same : next.temporary? = some q ↔ put.phase.temporary? = some q) :
    (s.moved i put after next).live q ↔ s.live q := by
  rw [FileState.live_iff, FileState.live_iff]
  constructor
  · rintro ⟨j, other, found, has⟩
    by_cases here : j = i
    · subst here
      rw [moved_put there] at found
      cases found
      exact ⟨j, put, there, same.mp has⟩
    · exact ⟨j, other, moved_other here ▸ found, has⟩
  · rintro ⟨j, other, found, has⟩
    by_cases here : j = i
    · subst here
      rw [there] at found
      cases found
      exact ⟨j, _, moved_put there, same.mpr has⟩
    · exact ⟨j, other, (moved_other here).trans found, has⟩

theorem not_live_of_absent (kept : FileInv contents s) {q : BlobPath} (absent : s.tree.files.lookup q = none) : ¬ s.live q := by
  rw [FileState.live_iff]
  rintro ⟨j, other, found, has⟩
  have := kept.held found has
  rw [absent] at this
  cases this

variable (kept : FileInv contents s) (there : s.puts[i]? = some put) (effect : PutEffect put s.tree after next)
include kept there

/-- A put that gives its temporary file up leaves nobody with it. -/
theorem free_moved {t : BlobPath} (before : put.phase.temporary? = some t) (gone : next.temporary? = none) :
    ¬ (s.moved i put after next).live t := by
  rw [FileState.live_iff]
  rintro ⟨j, other, found, has⟩
  by_cases here : j = i
  · subst here
    rw [moved_put there] at found
    cases found
    rw [gone] at has
    cases has
  · rw [moved_other here] at found
    exact here (kept.own found there has before)

/-- A link stores the data of its put. -/
theorem stored_linked {t : BlobPath} {content : List UInt8} (before : put.phase = .link t)
    (found : s.tree.files.lookup t = some content) (absent : s.tree.files.lookup put.path = none) :
    (s.moved i put { s.tree with files := s.tree.files ++ [(put.path, content)] } (.unlink t true)).stored put.path =
      some put.data := by
  have same : (PutPhase.unlink t true).temporary? = some put.path ↔ put.phase.temporary? = some put.path := by
    rw [before]
    rfl
  have wrote := kept.written there before
  rw [found] at wrote
  cases wrote
  rw [FileState.stored_of_not_live (mt (live_moved there same).mp (not_live_of_absent kept absent))]
  exact (lookup_link absent put.path).trans (if_pos rfl)

include effect

/-- Only a link changes what is stored: it stores the data of its put. -/
theorem stored_moved (q : BlobPath) : (s.moved i put after next).stored q = s.stored q ∨
    q = put.path ∧ s.stored q = none ∧ (s.moved i put after next).stored q = some put.data ∧ next.outcome.sure := by
  have same_live {tree : FileTree} {phase : PutPhase}
      (same : phase.temporary? = some q ↔ put.phase.temporary? = some q)
      (files : tree.files.lookup q = s.tree.files.lookup q) :
      (s.moved i put tree phase).stored q = s.stored q := by
    by_cases live : s.live q
    · rw [FileState.stored_of_live live, FileState.stored_of_live ((live_moved there same).mpr live)]
    · rw [FileState.stored_of_not_live live, FileState.stored_of_not_live (mt (live_moved there same).mp live)]
      exact files
  cases effect with
  | quiet files temporary =>
    left
    exact same_live (by rw [temporary]) (by rw [files])
  | made t absent before =>
    left
    by_cases here : q = t
    · subst here
      have live : (s.moved i put { s.tree with files := s.tree.files ++ [(q, [])] } (.write q)).live q :=
        FileState.live_iff.mpr ⟨i, _, moved_put there, rfl⟩
      rw [FileState.stored_of_live live, FileState.stored_of_not_live (not_live_of_absent kept absent), absent]
    · apply same_live
      · rw [before]
        simp [PutPhase.temporary?, Ne.symm here]
      · rw [lookup_link absent, if_neg here]
  | wrote t before =>
    left
    have same : (PutPhase.link t).temporary? = some q ↔ put.phase.temporary? = some q := by rw [before]; rfl
    by_cases here : q = t
    · subst here
      have live : s.live q := FileState.live_iff.mpr ⟨i, put, there, by rw [before]; rfl⟩
      rw [FileState.stored_of_live live, FileState.stored_of_live ((live_moved there same).mpr live)]
    · apply same_live same
      rw [lookup_write, if_neg here]
  | linked t content before found absent =>
    have same : (PutPhase.unlink t true).temporary? = some q ↔ put.phase.temporary? = some q := by rw [before]; rfl
    by_cases here : q = put.path
    · right
      subst here
      constructor
      · rfl
      constructor
      · rw [FileState.stored_of_not_live (not_live_of_absent kept absent), absent]
      · exact ⟨stored_linked kept there before found absent, rfl⟩
    · left
      apply same_live same
      rw [lookup_link absent, if_neg here]
  | removed t succeeds before =>
    left
    have none_ : (if succeeds then PutPhase.returned else PutPhase.raised).temporary? = none := by
      cases succeeds <;> rfl
    have has : put.phase.temporary? = some t := by rw [before]; rfl
    by_cases here : q = t
    · subst here
      have live : s.live q := FileState.live_iff.mpr ⟨i, put, there, has⟩
      rw [FileState.stored_of_live live, FileState.stored_of_not_live (free_moved kept there has none_)]
      exact (lookup_unlink _ q q).trans (if_pos rfl)
    · apply same_live
      · rw [none_, has]
        simp [Ne.symm here]
      · rw [lookup_unlink, if_neg here]

/-- The temporary files of other puts are left alone. -/
theorem lookup_other {j : Nat} {other : FilePut} {t : BlobPath} (apart : j ≠ i) (found : s.puts[j]? = some other)
    (has : other.phase.temporary? = some t) : after.files.lookup t = s.tree.files.lookup t := by
  have present := kept.held found has
  have differs {q : BlobPath} (absent : s.tree.files.lookup q = none) : t ≠ q := by
    rintro rfl
    rw [absent] at present
    cases present
  have foreign {q : BlobPath} (mine : put.phase.temporary? = some q) : t ≠ q := by
    rintro rfl
    exact apart (kept.own found there has mine)
  cases effect with
  | quiet files => rw [files]
  | made q absent => rw [lookup_link absent, if_neg (differs absent)]
  | wrote q before => rw [lookup_write, if_neg (foreign (by rw [before]; rfl))]
  | linked q content before held absent => rw [lookup_link absent, if_neg (differs absent)]
  | removed q succeeds before => rw [lookup_unlink, if_neg (foreign (by rw [before]; rfl))]

/-- The temporary file of the put that moved is there. -/
theorem lookup_own {t : BlobPath} (has : next.temporary? = some t) :
    (after.files.lookup t).isSome ∧ (next = .link t → after.files.lookup t = some put.data) ∧
      ∀ (j : Nat) (other : FilePut), s.puts[j]? = some other → other.phase.temporary? = some t → j = i := by
  cases effect with
  | quiet files temporary linking =>
    rw [temporary] at has
    constructor
    · rw [files]
      exact kept.held there has
    · exact ⟨fun linked => absurd linked (linking t), fun j other found same => kept.own found there same has⟩
  | made q absent =>
    obtain rfl : q = t := by simpa [PutPhase.temporary?] using has
    constructor
    · simp [lookup_link absent]
    · exact ⟨nofun, fun j other found same =>
        absurd (FileState.live_iff.mpr ⟨j, other, found, same⟩) (not_live_of_absent kept absent)⟩
  | wrote q before =>
    obtain rfl : q = t := by simpa [PutPhase.temporary?] using has
    have mine : put.phase.temporary? = some q := by rw [before]; rfl
    obtain ⟨content, held⟩ := Option.isSome_iff_exists.mp (kept.held there mine)
    have now : (s.tree.files.map fun file => if file.1 = q then (q, put.data) else file).lookup q = some put.data := by
      rw [lookup_write, if_pos rfl, held, Option.map_some]
    exact ⟨by rw [now]; rfl, fun _ => now, fun j other found same => kept.own found there same mine⟩
  | linked q content before held absent =>
    obtain rfl : q = t := by simpa [PutPhase.temporary?] using has
    have mine : put.phase.temporary? = some q := by rw [before]; rfl
    constructor
    · rw [lookup_link absent]
      split
      · rfl
      · rw [held]; rfl
    · exact ⟨nofun, fun j other found same => kept.own found there same mine⟩
  | removed q succeeds before => cases succeeds <;> cases has

theorem inv_moved : FileInv contents (s.moved i put after next) := by
  have puts {j : Nat} {other : FilePut} (found : (s.moved i put after next).puts[j]? = some other) :
      j = i ∧ other = { put with phase := next } ∨ j ≠ i ∧ s.puts[j]? = some other := by
    by_cases here : j = i
    · subst here
      rw [moved_put there] at found
      exact .inl ⟨rfl, (Option.some.inj found).symm⟩
    · exact .inr ⟨here, moved_other here ▸ found⟩
  constructor
  · intro path d found
    obtain same | ⟨-, -, now, -⟩ := stored_moved kept there effect path
    · exact kept.stored (same ▸ found)
    · rw [now] at found
      cases found
      exact kept.data there
  · intro j other found
    obtain ⟨rfl, rfl⟩ | ⟨-, old⟩ := puts found
    · exact show put.data ∈ contents from kept.data there
    · exact kept.data old
  · intro j t other found has
    obtain ⟨rfl, rfl⟩ | ⟨apart, old⟩ := puts found
    · exact (lookup_own kept there effect has).1
    · exact (congrArg Option.isSome (lookup_other kept there effect apart old has)).trans (kept.held old has)
  · intro j t other found linking
    have has : other.phase.temporary? = some t := by rw [linking]; rfl
    obtain ⟨rfl, rfl⟩ | ⟨apart, old⟩ := puts found
    · exact (lookup_own kept there effect has).2.1 linking
    · exact (lookup_other kept there effect apart old has).trans (kept.written old linking)
  · intro j k t one two found found' has has'
    obtain ⟨rfl, rfl⟩ | ⟨apart, old⟩ := puts found
    · obtain ⟨rfl, rfl⟩ | ⟨-, old'⟩ := puts found'
      · rfl
      · exact ((lookup_own kept there effect has).2.2 k two old' has').symm
    · obtain ⟨rfl, rfl⟩ | ⟨-, old'⟩ := puts found'
      · exact (lookup_own kept there effect has').2.2 j one old has
      · exact kept.own old old' has has'

end Moved

/-! ## The other calls -/

section Others
variable {contents : Set (List UInt8)} {s : FileState}

/-- The state when one more put has begun. -/
def FileState.begun (s : FileState) (put : FilePut) : FileState := { s with puts := s.puts ++ [put] }

theorem begun_put {put other : FilePut} {i : Nat} (found : (s.begun put).puts[i]? = some other) :
    s.puts[i]? = some other ∨ other = put := by
  by_cases old : i < s.puts.length
  · rw [FileState.begun, List.getElem?_append_left old] at found
    exact .inl found
  · rw [FileState.begun, List.getElem?_append_right (by omega)] at found
    exact .inr (List.mem_singleton.mp (List.mem_of_getElem? found))

theorem stored_begun {put : FilePut} (none_ : put.phase.temporary? = none) (q : BlobPath) :
    (s.begun put).stored q = s.stored q := by
  have same : (s.begun put).live q = s.live q := by
    simp [FileState.live, FileState.begun, none_]
  rw [FileState.stored, FileState.stored, same]
  rfl

theorem inv_begun (kept : FileInv contents s) {put : FilePut} (known : put.data ∈ contents)
    (none_ : put.phase.temporary? = none) : FileInv contents (s.begun put) := by
  have old {i : Nat} {t : BlobPath} {other : FilePut} (found : (s.begun put).puts[i]? = some other)
      (has : other.phase.temporary? = some t) : s.puts[i]? = some other := by
    obtain old | rfl := begun_put found
    · exact old
    · rw [none_] at has
      cases has
  constructor
  · intro path d found
    exact kept.stored (stored_begun none_ path ▸ found)
  · intro i other found
    obtain old | rfl := begun_put found
    · exact kept.data old
    · exact known
  · intro i t other found has
    exact kept.held (old found has) has
  · intro i t other found linking
    exact kept.written (old found (by rw [linking]; rfl)) linking
  · intro i j t one two found found' has has'
    exact kept.own (old found has) (old found' has') has has'

/-- The state without the blob at `path`. -/
def FileState.deleted (s : FileState) (path : BlobPath) : FileState :=
  { s with tree.files := s.tree.files.filter fun file => file.1 ≠ path }

theorem stored_deleted (path q : BlobPath) : (s.deleted path).stored q = if q = path then none else s.stored q := by
  have files : (s.deleted path).tree.files.lookup q = _ := lookup_unlink s.tree.files path q
  rw [FileState.stored, FileState.stored, files]
  change (if s.live q then none else _) = _
  split <;> simp

theorem inv_deleted (kept : FileInv contents s) {path : BlobPath} (free : s.live path = false) :
    FileInv contents (s.deleted path) := by
  have other {i : Nat} {t : BlobPath} {put : FilePut} (found : s.puts[i]? = some put)
      (has : put.phase.temporary? = some t) : (s.deleted path).tree.files.lookup t = s.tree.files.lookup t := by
    have differs : t ≠ path := by
      rintro rfl
      rw [FileState.live_iff.mpr ⟨i, put, found, has⟩] at free
      cases free
    exact (lookup_unlink s.tree.files path t).trans (if_neg differs)
  constructor
  · intro q d found
    rw [stored_deleted] at found
    split at found
    · cases found
    · exact kept.stored found
  · intro i put found
    exact show put.data ∈ contents from kept.data found
  · intro i t put found has
    rw [other found has]
    exact kept.held found has
  · intro i t put found linking
    rw [other found (by rw [linking]; rfl)]
    exact kept.written found linking
  · intro i j t one two
    exact kept.own

end Others

/-! ## The runs -/

/-- What a label does to a state. -/
inductive FileMove (s : FileState) : FileLabel → FileState → Prop
  | idle {a : FileLabel} : FileMove s a s
  | begun {key : String} {data : List UInt8} {put : FilePut} (given : put.data = data)
      (none_ : put.phase.temporary? = none) (open_ : put.phase.outcome.claims = false) :
      FileMove s (.put key data) (s.begun put)
  | deleted {key : String} {path : BlobPath} (safe : safeRelativeKey key = some path)
      (free : s.live path = false) : FileMove s (.delete key) (s.deleted path)
  | moved {a : FileLabel} {i : Nat} {put : FilePut} {after : FileTree} {next : PutPhase}
      (mover : fileView.mover a = some i) (there : s.puts[i]? = some put)
      (effect : PutEffect put s.tree after next)
      (free : next.outcome.claims → put.phase.compares → s.live put.path = false) :
      FileMove s a (s.moved i put after next)

theorem step_move {contents : Set (List UInt8)} {s : FileState} {a : FileLabel} (ok : fileOk contents s a) :
    FileMove s a (s.step a) := by
  cases a with
  | put key data =>
    simp only [FileState.step]
    split
    · exact .begun rfl rfl rfl
    · exact .begun rfl rfl rfl
  | get => exact .idle
  | delete key =>
    simp only [FileState.step]
    split
    · exact .idle
    · rename_i path safe
      exact .deleted safe (ok path safe)
  | advance i random =>
    simp only [FileState.step]
    split
    · exact .idle
    · rename_i put there
      exact .moved rfl there (put.advance_effect s.tree random) fun _ => ok put there
  | fail i =>
    simp only [FileState.step]
    split
    · exact .idle
    · rename_i put there
      apply FileMove.moved rfl there (PutPhase.fail_effect put s.tree (ok put there))
      intro claims compares
      cases phase : put.phase <;> rw [phase] at claims compares <;> cases compares <;> cases claims

theorem sameChecksum_some {contents : Set (List UInt8)} (free : Set.InjOn Sha256.hexdigestBytes contents)
    {data : List UInt8} {found : Option (List UInt8)} (known : data ∈ contents)
    (stored : ∀ d, found = some d → d ∈ contents) (same : sameChecksum data found) : found = some data := by
  cases found with
  | none => cases same
  | some old => rw [free (stored old rfl) known (by simpa [sameChecksum] using same)]

def FilePut.seen (put : FilePut) : Call BlobPath (List UInt8) := ⟨put.path, put.data, put.phase.outcome⟩

theorem calls_getElem? {s : FileState} {i : Nat} {c : Call BlobPath (List UInt8)} :
    (fileView.calls s)[i]? = some c ↔ ∃ put, s.puts[i]? = some put ∧ put.seen = c := by
  change (s.puts.map FilePut.seen)[i]? = some c ↔ _
  rw [List.getElem?_map, Option.map_eq_some_iff]

section Laws
variable {contents : Set (List UInt8)} {s : FileState}

/-- What a put has decided stays decided. -/
theorem PutEffect.becomes {put : FilePut} {tree after : FileTree} {next : PutPhase}
    (effect : PutEffect put tree after next) : put.seen.Becomes { put with phase := next }.seen := by
  have decided : put.phase.outcome.sure ∨ put.phase.outcome = .failed →
      next.outcome.sure = put.phase.outcome.sure ∧ (put.phase.outcome = .failed → next.outcome = .failed) := by
    cases effect with
    | quiet _ _ _ decided =>
      intro known
      rw [decided known]
      exact ⟨rfl, id⟩
    | made t _ before => simp [before, PutPhase.outcome, Outcome.sure]
    | wrote t before => simp [before, PutPhase.outcome, Outcome.sure]
    | linked t content before => simp [before, PutPhase.outcome, Outcome.sure]
    | removed t succeeds before => cases succeeds <;> simp [before, PutPhase.outcome, Outcome.sure]
  constructor
  · rfl
  · rfl
  · intro sure
    exact (decided (.inl sure)).1.trans sure
  · intro failed
    exact (decided (.inr failed)).2 failed

/-- A put that comes to claim its data has them stored. -/
theorem claims_moved (free : Set.InjOn Sha256.hexdigestBytes contents) (kept : FileInv contents s) {i : Nat}
    {put : FilePut} {after : FileTree} {next : PutPhase} (there : s.puts[i]? = some put)
    (effect : PutEffect put s.tree after next)
    (alone : next.outcome.claims → put.phase.compares → s.live put.path = false) (claims : next.outcome.claims) :
    put.phase.outcome.claims ∨ (s.moved i put after next).stored put.path = some put.data := by
  have effect_ := effect
  cases effect with
  | quiet files temporary linking decided reads =>
    obtain before | ⟨compares, same⟩ := reads claims
    · exact .inl before
    · right
      have here := FileState.stored_of_not_live (by simpa using alone claims compares)
      have found : s.stored put.path = some put.data := by
        rw [here]
        exact sameChecksum_some free (kept.data there) (fun d found => kept.stored (here.trans found)) same
      obtain same_ | ⟨-, -, now, -⟩ := stored_moved kept there effect_ put.path
      · exact same_.trans found
      · exact now
  | made => cases claims
  | wrote => cases claims
  | linked t content before found absent => exact .inr (stored_linked kept there before found absent)
  | removed t succeeds before =>
    cases succeeds with
    | false => cases claims
    | true =>
      left
      rw [before]
      rfl

theorem calls_moved (s : FileState) (i : Nat) (put : FilePut) (after : FileTree) (next : PutPhase) :
    fileView.calls (s.moved i put after next) = (fileView.calls s).set i { put with phase := next }.seen := by
  change (s.puts.set i _).map FilePut.seen = (s.puts.map FilePut.seen).set i _
  rw [List.map_set]

/-- Where no two contents have one checksum, files are created once. -/
theorem files_createOnce (free : Set.InjOn Sha256.hexdigestBytes contents) :
    CreatesOnce fileView (fileOk contents) (FileInv contents) := by
  apply CreateOnce.createsOnce_of_moves
  · intro s a kept ok
    change FileInv contents (s.step a)
    have move := step_move ok
    generalize s.step a = t at move
    cases move with
    | idle => exact kept
    | begun given none_ => exact inv_begun kept (given ▸ ok) none_
    | deleted _ apart => exact inv_deleted kept apart
    | moved _ there effect => exact inv_moved kept there effect
  · intro s a kept ok
    have move := step_move ok
    generalize after : s.step a = t at move
    cases move with
    | idle =>
      apply Move.idle
      · exact congrArg fileView.calls after
      · exact congrArg fileView.stored after
    | @begun _ _ put _ none_ open_ =>
      apply Move.begun put.seen open_
      · exact (congrArg fileView.calls after).trans List.map_append
      · exact (congrArg fileView.stored after).trans (funext fun q => stored_begun none_ q)
    | @deleted _ path safe =>
      apply Move.removed path safe
      · exact (congrArg fileView.calls after).trans rfl
      · intro q apart
        exact (congrFun (congrArg fileView.stored after) q).trans ((stored_deleted path q).trans (if_neg apart))
    | @moved _ i put tree next mover there effect alone =>
      apply Move.moved i put.seen _ mover (calls_getElem?.mpr ⟨put, there, rfl⟩)
        ((congrArg fileView.calls after).trans (calls_moved s i put tree next)) effect.becomes
      · intro claims
        obtain old | now := claims_moved free kept there effect alone claims
        · exact .inl old
        · exact .inr ((congrFun (congrArg fileView.stored after) put.path).trans now)
      · intro q
        have now : fileView.stored (fileView.step s a) q = (s.moved i put tree next).stored q :=
          congrFun (congrArg fileView.stored after) q
        rw [now]
        obtain same | ⟨-, absent, -, sure⟩ := stored_moved kept there effect q
        · exact .inl same
        · exact .inr ⟨absent, sure⟩
  · intro a i moves
    cases a <;> first | rfl | cases moves

end Laws

end RankRent.Cache
