import RankRent.Library.Effects
import RankRent.PublicData.Activations
import RankRent.PublicData.Lock
import RankRent.PublicData.RecordFiles

/-!
# Staging, one access after the other

`stage`, `activate` and `rollback` of `public_data/store.py` with their accesses to
the file system: an access can fail, and it can be the last of the process. What a
name that is no name of a directory does to `mkdtemp` or to the rename is such a
failure.
-/

namespace RankRent.PublicData
open Checks Interrupts

/-- `.registry.lock`: when it was made, and the token of its `owner.json`. -/
structure RegistryLock where
  mtime : ℚ
  token : Option String := none

/-- A directory of `.staging`. -/
structure Temporary where
  records : List DatasetRecord := []
  manifest : Option DatasetManifest := none

/-- The files below `root`. -/
structure Disk where
  store : PublicDataStore
  temporaries : List (String × Temporary) := []
  lock : Option RegistryLock := none

inductive StagingError
  | store (error : PublicDataError)
  /-- `RegistryLockTimeoutError`. -/
  | lockTimeout
  /-- `mkdtemp` finds no name. -/
  | temporaryTaken

/-- What a round of the loop of `_registry_lock` finds: `time.time()`, and whether the
owner of the lock is a live process of this host. -/
structure Round where
  time : ℚ
  ownerAlive : Bool

/-- What a call takes from its surroundings: the name that `mkdtemp` makes, the token of
its lock, the rounds it waits for the lock until the time is out, and the time. -/
structure Surroundings where
  temporary : String
  token : String
  first : Round
  rounds : List Round
  now : DateTime

abbrev StoreProgram (α : Type) : Type := Program StagingError Disk α

namespace Disk

/-- The directory of `.staging`, when it has both files. -/
def temporaryRelease (d : Disk) (name : String) : Option ReleaseDirectory :=
  match d.temporaries.lookup name with
  | some ⟨records, some manifest⟩ => some ⟨manifest, records⟩
  | _ => none

def update (d : Disk) (name : String) (f : Temporary → Temporary) : Disk :=
  { d with temporaries := d.temporaries.map fun entry => if entry.1 = name then (name, f entry.2) else entry }

/-- `shutil.rmtree`. -/
def remove (d : Disk) (name : String) : Disk :=
  { d with temporaries := d.temporaries.filter fun entry => entry.1 ≠ name }

/-- `os.rename`. -/
def rename (d : Disk) (name : String) (dataset : DatasetKind) (version : String) : Disk :=
  match d.temporaryRelease name with
  | some directory => { d.remove name with store := d.store.apply (.install dataset version directory) }
  | none => d

end Disk

def validated {α : Type} (x : Except PublicDataError α) : StoreProgram α := check (x.mapError .store)

/-- An access that leaves the files as the model has them. -/
def touch : StoreProgram Unit := read fun _ => ()

/-! ## The lock -/

section Lock
variable (timings : LockTimings)

/-- `_remove_stale_lock` takes this lock away. -/
def RegistryLock.Removable (lock : RegistryLock) (round : Round) : Prop :=
  timings.staleLockSeconds ≤ round.time - lock.mtime ∧ ¬ (lock.token.isSome ∧ round.ownerAlive)

instance (lock : RegistryLock) (round : Round) : Decidable (lock.Removable timings round) :=
  inferInstanceAs (Decidable (_ ∧ _))

/-- What `_remove_stale_lock` leaves. -/
def staysLocked (lock : Option RegistryLock) (round : Round) : Option RegistryLock :=
  lock.filter fun lock => ¬ lock.Removable timings round

/-- `_remove_stale_lock`. -/
def Disk.removeStaleLock (d : Disk) (round : Round) : Disk := { d with lock := staysLocked timings d.lock round }

def Disk.unlock (d : Disk) : Disk := { d with lock := none }

/-- The directory of the lock, and its owner. -/
def makeLock (token : String) (round : Round) : StoreProgram Unit := do
  write fun d => { d with lock := some { mtime := round.time } }
  handled (write fun d => { d with lock := d.lock.map fun lock => { lock with token := some token } })
    (quietly (write Disk.unlock))

/-- The rounds of `_registry_lock`; the time is out at the last. -/
def acquireLock (token : String) : Round → List Round → StoreProgram Unit
  | round, [] => do
    match ← read Disk.lock with
    | none => makeLock token round
    | some _ =>
      write fun d => d.removeStaleLock timings round
      check (.error .lockTimeout)
  | round, next :: rest => do
    match ← read Disk.lock with
    | none => makeLock token round
    | some _ =>
      write fun d => d.removeStaleLock timings round
      acquireLock token next rest

/-- `_release_registry_lock`. -/
def Disk.releaseLock (d : Disk) (token : String) : Disk :=
  if d.lock.bind RegistryLock.token = some token then d.unlock else d

/-- `with self._registry_lock()`. -/
def locked {α : Type} (s : Surroundings) (body : StoreProgram α) : StoreProgram α := do
  acquireLock timings s.token s.first s.rounds
  ensured body (quietly (write fun d => d.releaseLock s.token))

/-- The lock is free, or a round before the last one takes it away. -/
def Takes (lock : Option RegistryLock) (round : Round) : List Round → Prop
  | [] => lock = none
  | next :: rest => Takes (staysLocked timings lock round) next rest

instance decidableTakes : ∀ lock round rounds, Decidable (Takes timings lock round rounds)
  | none, _, [] => isTrue rfl
  | some _, _, [] => isFalse fun none => by cases none
  | lock, round, next :: rest => decidableTakes (staysLocked timings lock round) next rest

end Lock

/-! ## The operations -/

section Operations
variable (reader : PyJson.Reader) (lax : PyJson → Option PyJson) (timings : LockTimings)

/-- `_validate_release_directory`, down to the text of the records. -/
def validateReleaseFiles (path : String) (directory : Option ReleaseDirectory) (expectedManifest : DatasetManifest) :
    Except PublicDataError Unit := do
  let directory ← found directory (.validation ("Dataset release is incomplete: " ++ path))
  let diskManifest := directory.manifest
  require (diskManifest.release.dataset = expectedManifest.release.dataset)
    (.validation "Dataset manifest kind does not match registry.")
  require (diskManifest.release.version = expectedManifest.release.version)
    (.validation "Dataset manifest version does not match registry.")
  require (diskManifest.release = expectedManifest.release)
    (.validation "Dataset release provenance does not match registry.")
  require (diskManifest.contentSha256 = expectedManifest.contentSha256)
    (.validation "Dataset content checksum does not match registry.")
  require (diskManifest.recordCount = expectedManifest.recordCount)
    (.validation "Dataset record count does not match registry.")
  require (Sha256.hexdigest (recordsText directory.records) = expectedManifest.contentSha256)
    (.validation ("Checksum mismatch for " ++ expectedManifest.release.dataset.value ++ " " ++
      expectedManifest.release.version ++ "."))
  let records ← readRecordsText reader lax (path ++ "/records.jsonl") (recordsText directory.records)
  require (records.length = expectedManifest.recordCount)
    (.validation "Dataset record count does not match manifest.")

/-- `_validate_release_directory` of a version. -/
def validateRelease (dataset : DatasetKind) (version : String) (expectedManifest : DatasetManifest) :
    StoreProgram Unit := do
  let (path, directory) ← read fun d => (d.store.releasePath dataset version, d.store.releases.lookup (dataset, version))
  validated (validateReleaseFiles reader lax path directory expectedManifest)

/-- `registry`. -/
def loadRegistry : StoreProgram PublicDataRegistry := do
  let registry ← read fun d => d.store.loadRegistry
  validated registry

/-- `_write_registry`. -/
def writeRegistry (change : PublicDataStore.Write) : StoreProgram Unit := do
  touch
  write fun d => { d with store := d.store.apply change }
  touch

/-- `_commit_staged` under the lock. -/
def commitLocked (s : Surroundings) (manifest : DatasetManifest) : StoreProgram DatasetManifest := do
  let registry ← loadRegistry
  let destination ← read fun d => d.store.releases.lookup (manifest.release.dataset, manifest.release.version)
  match destination with
  | some destination =>
    validated (validateRecoverableRelease destination.manifest manifest)
    validateRelease reader lax manifest.release.dataset manifest.release.version destination.manifest
    match (registry.registration manifest.release.dataset).versions.lookup manifest.release.version with
    | some existing => return existing
    | none =>
      writeRegistry (PublicDataStore.registerStaged destination.manifest registry)
      return destination.manifest
  | none =>
    touch
    write fun d => d.rename s.temporary manifest.release.dataset manifest.release.version
    touch
    writeRegistry (PublicDataStore.registerStaged manifest registry)
    return manifest

/-- `_commit_staged`. -/
def commitStaged (s : Surroundings) (manifest : DatasetManifest) : StoreProgram DatasetManifest :=
  locked timings s (commitLocked reader lax s manifest)

/-- `tempfile.mkdtemp`. -/
def makeTemporary (name : String) : StoreProgram Unit := do
  let there ← read fun d => (d.temporaries.lookup name).isSome
  check (require (there = false) .temporaryTaken)
  write fun d => { d with temporaries := d.temporaries ++ [(name, {})] }

/-- The loop of `_write_validated_records`. -/
def writeRecords (temporary : String) :
    List (String × String × List (String × String)) → List DatasetRecord → StoreProgram Unit
  | _, [] => pure ()
  | identities, record :: rest => do
    validated (require (record.identity ∉ identities) (.duplicateRecord record.identity))
    write fun d => d.update temporary fun files => { files with records := files.records ++ [record] }
    writeRecords temporary (record.identity :: identities) rest

/-- The manifest of a release that is staged now. -/
def PublicDataAdapter.manifest (adapter : PublicDataAdapter) (now : DateTime) : DatasetManifest where
  release := adapter.release
  recordCount := adapter.records.length
  contentSha256 := digest adapter.records
  stagedAt := now

/-- What `stage` does with its temporary directory. -/
def fillAndCommit (s : Surroundings) (adapter : PublicDataAdapter) : StoreProgram DatasetManifest := do
  touch
  writeRecords s.temporary [] adapter.records
  validated (require (adapter.records ≠ []) (.validation "A staged dataset cannot be empty."))
  write fun d => d.update s.temporary fun files => { files with manifest := some (adapter.manifest s.now) }
  let directory ← read fun d => d.temporaryRelease s.temporary
  validated (validateReleaseFiles reader lax s.temporary directory (adapter.manifest s.now))
  commitStaged reader lax timings s (adapter.manifest s.now)

/-- `stage`. -/
def stage (s : Surroundings) (adapter : PublicDataAdapter) : StoreProgram DatasetManifest := do
  validated (require adapter.release.sourceSha256.isSome
    (.validation "A source-file SHA-256 checksum is required before staging."))
  touch
  makeTemporary s.temporary
  handled (fillAndCommit reader lax timings s adapter) (quietly (write fun d => d.remove s.temporary))

/-- `_activate_locked`. -/
def activateLocked (registry : PublicDataRegistry) (dataset : DatasetKind) (version : String) (now : DateTime) :
    StoreProgram DatasetManifest := do
  let registration := registry.registration dataset
  let manifest ← validated (found (registration.versions.lookup version)
    (.notFound (dataset.value ++ " " ++ version ++ " is not registered.")))
  validateRelease reader lax dataset version manifest
  if registration.activeVersion = some version then return manifest
  else do
    let versions ← validated (PublicDataStore.supersede registration)
    let activeManifest := { manifest with status := .active, activatedAt := some now }
    writeRegistry (.register (registry.put dataset
      { activeVersion := some version
        activationHistory := (registration.activationHistory.filter (· ≠ version)) ++ [version]
        versions := versions.insert version activeManifest }))
    return activeManifest

/-- `activate`. -/
def activate (s : Surroundings) (dataset : DatasetKind) (version : String) : StoreProgram DatasetManifest :=
  locked timings s do
    let registry ← loadRegistry
    activateLocked reader lax registry dataset version s.now

/-- `rollback` under the lock. -/
def rollbackLocked (dataset : DatasetKind) (now : DateTime) : StoreProgram DatasetManifest := do
  let registry ← loadRegistry
  let registration := registry.registration dataset
  let candidates := registration.activationHistory.reverse.filter
    fun version => some version ≠ registration.activeVersion
  match candidates with
  | [] => validated (.error (.notFound ("No previous activated " ++ dataset.value ++ " release is available.")))
  | version :: _ => activateLocked reader lax registry dataset version now

/-- `rollback`. -/
def rollback (s : Surroundings) (dataset : DatasetKind) : StoreProgram DatasetManifest :=
  locked timings s (rollbackLocked reader lax dataset s.now)

/-- `active_records`. -/
def Disk.activeRecords (d : Disk) (dataset : DatasetKind) (geographyId sourceGeoid : Option String) :
    Except PublicDataError (List DatasetRecord) := do
  match ← d.store.activeManifest dataset with
  | none => return []
  | some manifest =>
    let version := manifest.release.version
    let path := d.store.releasePath dataset version
    let registry ← d.store.loadRegistry
    let registered ← found ((registry.registration dataset).versions.lookup version)
      (.notFound (dataset.value ++ " " ++ version ++ " is not registered."))
    validateReleaseFiles reader lax path (d.store.releases.lookup (dataset, version)) registered
    let directory ← found (d.store.releases.lookup (dataset, version))
      (.validation ("Dataset release is incomplete: " ++ path))
    let records ← readRecordsText reader lax (path ++ "/records.jsonl") (recordsText directory.records)
    return records.filter fun record =>
      (geographyId = none ∨ geographyId = some record.geographyId) ∧
        (sourceGeoid = none ∨ sourceGeoid = some record.sourceGeoid)

end Operations

end RankRent.PublicData
