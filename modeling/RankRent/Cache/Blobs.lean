import RankRent.Library.Sha256

/-!
# Blob stores

The `BlobStore` protocol of `storage/blobs.py` and `FilesystemBlobStore`, one call after
another.
-/

namespace RankRent.Cache

structure BlobInfo where
  key : String
  checksum : String
  sizeBytes : Nat
  contentType : String

inductive BlobStoreError
  | unsafeKey | immutable | os
  deriving DecidableEq, Repr

/-- `BlobStore`: `put` with its content type, and `get`, which may raise. -/
structure BlobStore (σ : Type) where
  put : σ → String → List UInt8 → String → Except BlobStoreError (σ × BlobInfo)
  get : σ → String → Option (List UInt8)

section
variable {σ : Type} (store : BlobStore σ)

/-- What a put leaves: its data under its key, and every older blob. -/
structure Stored (before : σ) (key : String) (data : List UInt8) (contentType : String) (after : σ)
    (info : BlobInfo) : Prop where
  got : store.get after key = some data
  size : info.sizeBytes = data.length
  typed : info.contentType = contentType
  kept : ∀ other old, store.get before other = some old → store.get after other = some old

/-- The store returns what was put. -/
def ReturnsPut (blobs : σ) (key : String) (data : List UInt8) (contentType : String) : Prop :=
  ∀ after info, store.put blobs key data contentType = .ok (after, info) →
    Stored store blobs key data contentType after info

end

/-! ## Files -/

/-- The parts of `PurePosixPath(key)` in `_safe_relative_key`; `none` is a `BlobStoreError`. -/
def safeRelativeKey (key : String) : Option (List String) :=
  let parts := ((key.toList.splitOn '/').map String.ofList).filter fun part => part ≠ "" ∧ part ≠ "."
  if key = "" ∨ key.toList.head? = some '/' ∨ ".." ∈ parts then none else some parts

/-- The files under the root, by their parts. -/
abbrev BlobFiles := List (List String × List UInt8)

/-- A directory stands at the path, or a file where it needs a directory. -/
def blocked (files : BlobFiles) (path : List String) : Bool :=
  path.isEmpty || files.any fun file =>
    (file.1.isPrefixOf path || path.isPrefixOf file.1) && file.1 != path

/-- `FilesystemBlobStore.put`. -/
def filesystemPut (files : BlobFiles) (key : String) (data : List UInt8) (contentType : String) :
    Except BlobStoreError (BlobFiles × BlobInfo) :=
  match safeRelativeKey key with
  | none => .error .unsafeKey
  | some path =>
    if blocked files path then .error .os
    else
      match files.lookup path with
      | some old =>
        if Sha256.hexdigestBytes old ≠ Sha256.hexdigestBytes data then .error .immutable
        else .ok (files, ⟨key, Sha256.hexdigestBytes old, old.length, contentType⟩)
      | none => .ok (files ++ [(path, data)],
          ⟨key, Sha256.hexdigestBytes data, data.length, contentType⟩)

def filesystemBlobStore : BlobStore BlobFiles where
  put := filesystemPut
  get files key := (safeRelativeKey key).bind fun path => files.lookup path

theorem filesystemPut_nil {key : String} {path : List String} (data : List UInt8) (contentType : String)
    (safe : safeRelativeKey key = some path) (filled : path ≠ []) :
    filesystemPut [] key data contentType =
      .ok ([(path, data)], ⟨key, Sha256.hexdigestBytes data, data.length, contentType⟩) := by
  simp [filesystemPut, safe, blocked, filled]

/-- Files return what was put, when the file that is there already is no collision. -/
theorem filesystem_returnsPut {files : BlobFiles} {key : String} {data : List UInt8}
    (contentType : String)
    (free : ∀ old, filesystemBlobStore.get files key = some old →
      Sha256.hexdigestBytes old = Sha256.hexdigestBytes data → old = data) :
    ReturnsPut filesystemBlobStore files key data contentType := by
  intro after info put
  simp only [filesystemBlobStore, filesystemPut] at put
  cases safe : safeRelativeKey key with
  | none =>
    rw [safe] at put
    cases put
  | some path =>
    rw [safe] at put
    dsimp only at put
    split at put
    · cases put
    · cases there : files.lookup path with
      | some old =>
        rw [there] at put
        dsimp only at put
        split at put
        · cases put
        · rename_i same
          cases put
          have found : filesystemBlobStore.get files key = some old := by
            simp [filesystemBlobStore, safe, there]
          obtain rfl := free old found (not_not.mp same)
          exact ⟨found, rfl, rfl, fun _ _ => id⟩
      | none =>
        rw [there] at put
        cases put
        constructor
        · simp [filesystemBlobStore, safe, List.lookup_append, there]
        · rfl
        · rfl
        · intro other old found
          simp only [filesystemBlobStore] at found ⊢
          obtain ⟨place, named, held⟩ := Option.bind_eq_some_iff.mp found
          rw [named, Option.bind_some, List.lookup_append, held]
          rfl

end RankRent.Cache
