import RankRent.Cache.ObjectBlobs
import RankRent.Library.PyDict

/-!
# Blobs are immutable

Both stores under any order of their accesses, and what their keys address.
-/

namespace RankRent.Cache

/-! ## Keys -/

/-- `FilesystemBlobStore._path`. -/
def blobPath (root : BlobPath) (key : String) : Option BlobPath :=
  (safeRelativeKey key).bind fun parts =>
    if root.isPrefixOf (root ++ parts) then some (root ++ parts) else none

theorem blobPath_eq_some {root path : BlobPath} {key : String} :
    blobPath root key = some path ↔ ∃ parts, safeRelativeKey key = some parts ∧ path = root ++ parts := by
  have under (parts : BlobPath) : root.isPrefixOf (root ++ parts) = true :=
    List.isPrefixOf_iff_prefix.mpr (List.prefix_append root parts)
  rw [blobPath, Option.bind_eq_some_iff]
  constructor
  · rintro ⟨parts, safe, here⟩
    rw [if_pos (under parts)] at here
    exact ⟨parts, safe, (Option.some.inj here).symm⟩
  · rintro ⟨parts, safe, rfl⟩
    exact ⟨parts, safe, if_pos (under parts)⟩

/-- The parts of a key are texts between slashes, and none is a dot. -/
theorem safeRelativeKey_parts {key : String} {parts : List String} (safe : safeRelativeKey key = some parts) :
    ∀ part ∈ parts, part ≠ "." ∧ part.toList ≠ [] ∧ ∀ c ∈ part.toList, (c == '/') = false := by
  unfold safeRelativeKey at safe
  dsimp only at safe
  split at safe
  · cases safe
  · cases safe
    intro part member
    obtain ⟨split_, kept⟩ := List.mem_filter.mp member
    obtain ⟨run, there, rfl⟩ := List.mem_map.mp split_
    obtain ⟨filled, plain⟩ : String.ofList run ≠ "" ∧ String.ofList run ≠ "." := by simpa using kept
    constructor
    · exact plain
    · rw [String.toList_ofList]
      constructor
      · rintro rfl
        exact filled rfl
      · exact PyString.splitOnP_clean key.toList run there

theorem runs_asPosix {key : String} {parts : List String} (safe : safeRelativeKey key = some parts)
    (some_ : parts ≠ []) : (PyString.runs (· == '/') (asPosix parts).toList).map String.ofList = parts := by
  have each : ∀ run ∈ parts.map String.toList, run ≠ [] ∧ ∀ c ∈ run, (c == '/') = false := by
    intro run member
    obtain ⟨part, there, rfl⟩ := List.mem_map.mp member
    exact (safeRelativeKey_parts safe part there).2
  rw [asPosix, if_neg some_, String.toList_intercalate, show ("/" : String).toList = ['/'] from rfl,
    PyString.runs_intercalate rfl each, List.map_map]
  simp [Function.comp_def]

theorem asPosix_ne_dot {key : String} {parts : List String} (safe : safeRelativeKey key = some parts)
    (some_ : parts ≠ []) : asPosix parts ≠ "." := by
  intro dot
  have whole := runs_asPosix safe some_
  rw [dot] at whole
  have member : "." ∈ parts := whole ▸ by decide
  exact (safeRelativeKey_parts safe "." member).1 rfl

/-- The texts of accepted keys tell their parts apart. -/
theorem asPosix_inj {key other : String} {parts parts' : List String} (safe : safeRelativeKey key = some parts)
    (safe' : safeRelativeKey other = some parts') (same : asPosix parts = asPosix parts') : parts = parts' := by
  by_cases none_ : parts = []
  · by_cases none_' : parts' = []
    · rw [none_, none_']
    · rw [none_] at same
      exact absurd same.symm (asPosix_ne_dot safe' none_')
  · by_cases none_' : parts' = []
    · rw [none_'] at same
      exact absurd same (asPosix_ne_dot safe none_)
    · rw [← runs_asPosix safe none_, ← runs_asPosix safe' none_', same]

theorem objectKey_inj {given key other address : String} (named : objectKey given key = some address)
    (named' : objectKey given other = some address) : safeRelativeKey key = safeRelativeKey other := by
  obtain ⟨parts, safe, rfl⟩ := Option.map_eq_some_iff.mp named
  obtain ⟨parts', safe', same⟩ := Option.map_eq_some_iff.mp named'
  rw [safe, safe']
  congr 1
  apply asPosix_inj safe safe'
  split at same
  · exact same.symm
  · exact (String.append_right_inj _ |>.mp same).symm

/-! ## Both stores -/

/-- What the stores promise when no two of the contents have one checksum. -/
structure BlobsImmutable (contents : Set (List UInt8)) : Prop where
  files : ∀ (start : FileState) labels, start.puts = [] → (∀ file ∈ start.tree.files, file.2 ∈ contents) →
    Runs.Allowed (fileOk contents) FileState.step start labels → CreateOnce.Immutable fileView start labels
  fileGet : ∀ (s : FileState) key path data, safeRelativeKey key = some path → s.stored path = some data →
    filesystemBlobStore.get s.tree.files key = some data
  objects : ∀ given (start : ObjectState) labels, start.puts = [] →
    (∀ entry ∈ start.objects, entry.2.body ∈ contents ∧ ∀ checksum, entry.2.sha256 = some checksum →
      checksum ≠ "" → checksum = Sha256.hexdigestBytes entry.2.body) →
    Runs.Allowed (objectOk contents) (ObjectState.step given) start labels →
    CreateOnce.Immutable (objectView given) start labels
  objectGet : ∀ given (s : ObjectState) key address data, objectKey given key = some address →
    s.stored address = some data → s.get given key = some data
  underRoot : ∀ root key path, blobPath root key = some path → root <+: path
  underPrefix : ∀ given key address, objectKey given key = some address → stripSlashes given ≠ "" →
    (stripSlashes given ++ "/").toList <+: address.toList
  samePath : ∀ root key other path, blobPath root key = some path → blobPath root other = some path →
    safeRelativeKey key = safeRelativeKey other
  sameObject : ∀ given key other address, objectKey given key = some address →
    objectKey given other = some address → safeRelativeKey key = safeRelativeKey other

theorem file_start {contents : Set (List UInt8)} {start : FileState} (idle : start.puts = [])
    (known : ∀ file ∈ start.tree.files, file.2 ∈ contents) : FileInv contents start := by
  have nobody {i : Nat} {put : FilePut} (found : start.puts[i]? = some put) : False := by
    rw [idle] at found
    cases found
  constructor
  · intro path d found
    unfold FileState.stored at found
    split at found
    · cases found
    · exact known _ (PyDict.mem_of_lookup found)
  · exact fun found => (nobody found).elim
  · exact fun found => (nobody found).elim
  · exact fun found => (nobody found).elim
  · exact fun found => (nobody found).elim

theorem object_start {contents : Set (List UInt8)} {start : ObjectState} (idle : start.puts = [])
    (known : ∀ entry ∈ start.objects, entry.2.body ∈ contents ∧ ∀ checksum, entry.2.sha256 = some checksum →
      checksum ≠ "" → checksum = Sha256.hexdigestBytes entry.2.body) : ObjectInv contents start := by
  constructor
  · intro address object found
    exact (known _ (PyDict.mem_of_lookup found)).1
  · intro address object text found
    exact (known _ (PyDict.mem_of_lookup found)).2 text
  · intro i put found
    rw [idle] at found
    cases found

/-- While no checksum read and no delete is of a temporary file that a put has, and
every put can take its own away, what has been put stays as it was put. -/
theorem blobs_immutable {contents : Set (List UInt8)} (free : Set.InjOn Sha256.hexdigestBytes contents) :
    BlobsImmutable contents := by
  constructor
  · intro start labels idle known allowed
    exact CreateOnce.immutable (files_createOnce free) allowed (file_start idle known)
  · intro s key path data safe found
    unfold FileState.stored at found
    split at found
    · cases found
    · change (safeRelativeKey key).bind _ = _
      rw [safe]
      exact found
  · intro given start labels idle known allowed
    exact CreateOnce.immutable (objects_createOnce free given) allowed (object_start idle known)
  · intro given s key address data named found
    rw [ObjectState.get, named]
    exact found
  · intro root key path named
    obtain ⟨parts, -, rfl⟩ := blobPath_eq_some.mp named
    exact List.prefix_append root parts
  · intro given key address named some_
    obtain ⟨parts, -, rfl⟩ := Option.map_eq_some_iff.mp named
    rw [if_neg some_]
    exact ⟨(asPosix parts).toList, String.toList_append.symm⟩
  · intro root key other path named named'
    obtain ⟨parts, safe, rfl⟩ := blobPath_eq_some.mp named
    obtain ⟨parts', safe', same⟩ := blobPath_eq_some.mp named'
    rw [safe, safe', List.append_cancel_left same]
  · intro given key other address
    exact objectKey_inj

/-- Two short blobs. -/
theorem short_blobs_immutable : BlobsImmutable {[1], [2]} := by
  apply blobs_immutable
  have apart : Sha256.hexdigestBytes [1] ≠ Sha256.hexdigestBytes [2] := by decide +kernel
  rintro a (rfl | rfl) b (rfl | rfl) same
  · rfl
  · exact absurd same apart
  · exact absurd same.symm apart
  · rfl

/-- A put of the name that another put drew for its temporary file, while that file
is there with the same data. -/
def borrowed : List FileLabel :=
  [.put "a" [1], .advance 0 "", .advance 0 "", .advance 0 "x7_k2m9q", .advance 0 "",
    .put ".a.x7_k2m9q" [1], .advance 1 "", .advance 1 "", .advance 1 "", .advance 0 "", .advance 0 ""]

/-- It returns, and its blob goes with the temporary file, though nothing is deleted. -/
theorem borrowed_lost : ((borrowed.foldl FileState.step ⟨⟨[], []⟩, []⟩).puts[1]?.map fun put =>
      put.phase) = some .returned ∧
    (∀ label ∈ borrowed, fileView.removes label = none) ∧
    filesystemBlobStore.get (borrowed.foldl FileState.step ⟨⟨[], []⟩, []⟩).tree.files ".a.x7_k2m9q" = none := by
  decide +kernel

end RankRent.Cache
