import Mathlib.Data.List.AList
import RankRent.Library.Checks
import RankRent.Library.PyJson
import RankRent.Library.Sha256
import RankRent.Store.Schema

/-!
# The public-data store

`public_data/store.py`: release directories that are written once, and a
registry of their versions with the active one of each dataset. An operation is
given by what it writes, since it can be stopped between its writes.
-/

namespace RankRent.PublicData
open Checks

/-- A `dict`; the order of its items is never read. -/
abbrev Dict (α β : Type) : Type := AList fun _ : α => β

inductive DatasetKind
  | acs | cbp | nes | noaa | fema
  deriving DecidableEq, Repr

inductive DatasetStatus
  | staged | active | superseded
  deriving DecidableEq, Repr

/-- `DatasetKind.value`. -/
def DatasetKind.value : DatasetKind → String
  | .acs => "acs"
  | .cbp => "cbp"
  | .nes => "nes"
  | .noaa => "noaa"
  | .fema => "fema"

structure DatasetRecord where
  geographyId : String
  sourceGeoid : String
  geographyLevel : String
  values : List (String × PyJson)
  dimensions : List (String × String) := []

/-- `identity`. -/
def DatasetRecord.identity (record : DatasetRecord) : String × String × List (String × String) :=
  (record.geographyId, record.sourceGeoid, PyJson.sortKeys record.dimensions)

instance lawfulBEq_identity : LawfulBEq (String × String × List (String × String)) := inferInstance

/-- The line of a record. -/
def DatasetRecord.encoded (record : DatasetRecord) : String :=
  PyJson.dumps (.obj
    [("geography_id", .str record.geographyId),
     ("source_geoid", .str record.sourceGeoid),
     ("geography_level", .str record.geographyLevel),
     ("values", .obj record.values),
     ("dimensions", .obj (record.dimensions.map fun item => (item.1, .str item.2)))]) ++ "\n"

structure DatasetRelease where
  dataset : DatasetKind
  version : String
  dataYear : Nat
  releaseDate : Date
  sourceUrl : String
  sourceName : String
  license : String
  sourceSha256 : Option String := none
  sourceBytes : Option Nat := none
  sourceFormat : Option String := none
  sourceContentType : Option String := none
  sourceEtag : Option String := none
  sourceLastModified : Option String := none
  acquisitionMethod : Option String := none
  geographicGranularity : List String
  refreshCadence : String
  retrievedAt : DateTime
  adapter : String
  notes : String := ""
  deriving DecidableEq

structure DatasetManifest where
  release : DatasetRelease
  status : DatasetStatus := .staged
  recordCount : Nat
  contentSha256 : String
  stagedAt : DateTime
  activatedAt : Option DateTime := none

structure DatasetRegistration where
  activeVersion : Option String := none
  activationHistory : List String := []
  versions : Dict String DatasetManifest := ∅

structure PublicDataRegistry where
  datasets : Dict DatasetKind DatasetRegistration := ∅

/-- `registration`. -/
def PublicDataRegistry.registration (registry : PublicDataRegistry) (dataset : DatasetKind) :
    DatasetRegistration :=
  (registry.datasets.lookup dataset).getD {}

/-- `registry.datasets[dataset] = registration`. -/
def PublicDataRegistry.put (registry : PublicDataRegistry) (dataset : DatasetKind)
    (registration : DatasetRegistration) : PublicDataRegistry :=
  { datasets := registry.datasets.insert dataset registration }

/-- `active_version_must_exist`. -/
def DatasetRegistration.Valid (registration : DatasetRegistration) : Prop :=
  (∀ version ∈ registration.activeVersion, version ∈ registration.versions) ∧
    ∀ version ∈ registration.activationHistory, version ∈ registration.versions

instance (registration : DatasetRegistration) : Decidable registration.Valid :=
  inferInstanceAs (Decidable (_ ∧ _))

/-- `manifest.json` and the records of `records.jsonl`. -/
structure ReleaseDirectory where
  manifest : DatasetManifest
  records : List DatasetRecord

/-- The digest of `records.jsonl`. -/
def digest (records : List DatasetRecord) : String :=
  Sha256.hexdigest (String.join (records.map DatasetRecord.encoded))

/-- An adapter with its release and its normalized records. -/
structure PublicDataAdapter where
  release : DatasetRelease
  records : List DatasetRecord

/-- The files below `root`. -/
structure PublicDataStore where
  root : String
  registry : PublicDataRegistry := {}
  releases : Dict (DatasetKind × String) ReleaseDirectory := ∅

/-- `DatasetValidationError` and `DatasetNotFoundError` with their messages; that
of a duplicate record renders its identity. -/
inductive PublicDataError
  | validation (message : String)
  | duplicateRecord (identity : String × String × List (String × String))
  | notFound (message : String)
  | keyError (version : String)

/-! ## Validation -/

/-- `_validate_release_directory`. -/
def validateReleaseDirectory (path : String) (directory : Option ReleaseDirectory)
    (expectedManifest : DatasetManifest) : Except PublicDataError Unit := do
  let directory ← found directory (.validation ("Dataset release is incomplete: " ++ path))
  let diskManifest := directory.manifest
  require (diskManifest.release.dataset = expectedManifest.release.dataset)
    (.validation "Dataset manifest kind does not match registry.")
  require (diskManifest.release.version = expectedManifest.release.version)
    (.validation "Dataset manifest version does not match registry.")
  require (diskManifest.release = expectedManifest.release)
    (.validation "Dataset release provenance does not match registry.")
  require (diskManifest.contentSha256 = expectedManifest.contentSha256)
    (.validation "Dataset content checksum does not match registry.")
  require (diskManifest.recordCount = expectedManifest.recordCount)
    (.validation "Dataset record count does not match registry.")
  require (digest directory.records = expectedManifest.contentSha256)
    (.validation ("Checksum mismatch for " ++ expectedManifest.release.dataset.value ++ " " ++
      expectedManifest.release.version ++ "."))
  require (directory.records.length = expectedManifest.recordCount)
    (.validation "Dataset record count does not match manifest.")

/-- `_validate_recoverable_release`. -/
def validateRecoverableRelease (diskManifest candidateManifest : DatasetManifest) :
    Except PublicDataError Unit :=
  require ({ diskManifest.release with retrievedAt := 0 } =
        { candidateManifest.release with retrievedAt := 0 } ∧
      diskManifest.contentSha256 = candidateManifest.contentSha256 ∧
      diskManifest.recordCount = candidateManifest.recordCount)
    (.validation
      "An immutable dataset release already exists with different content or provenance.")

/-- No identity comes twice. -/
def checkIdentities (identities : List (String × String × List (String × String))) :
    List DatasetRecord → Except PublicDataError Unit
  | [] => .ok ()
  | record :: rest => do
    require (record.identity ∉ identities) (.duplicateRecord record.identity)
    checkIdentities (record.identity :: identities) rest

/-- `_write_validated_records`. -/
def writeValidatedRecords (records : List DatasetRecord) : Except PublicDataError (Nat × String) := do
  checkIdentities [] records
  require (records ≠ []) (.validation "A staged dataset cannot be empty.")
  return (records.length, digest records)

namespace PublicDataStore

/-- `registry`. -/
def loadRegistry (s : PublicDataStore) : Except PublicDataError PublicDataRegistry := do
  require (∀ entry ∈ s.registry.datasets.entries, entry.2.Valid)
    (.validation ("Public-data registry is invalid: " ++ s.root ++ "/registry.json"))
  return s.registry

/-- `_release_path`. -/
def releasePath (s : PublicDataStore) (dataset : DatasetKind) (version : String) : String :=
  s.root ++ "/datasets/" ++ dataset.value ++ "/" ++ version

/-- `_validate_registered`. -/
def validateRegistered (s : PublicDataStore) (registry : PublicDataRegistry) (dataset : DatasetKind)
    (version : String) : Except PublicDataError DatasetManifest := do
  let manifest ← found ((registry.registration dataset).versions.lookup version)
    (.notFound (dataset.value ++ " " ++ version ++ " is not registered."))
  validateReleaseDirectory (s.releasePath dataset version) (s.releases.lookup (dataset, version))
    manifest
  return manifest

/-! ## Operations -/

/-- A directory that is renamed into place, or a registry that replaces the old. -/
inductive Write
  | install (dataset : DatasetKind) (version : String) (directory : ReleaseDirectory)
  | register (registry : PublicDataRegistry)

/-- `_register_staged`. -/
def registerStaged (manifest : DatasetManifest) (registry : PublicDataRegistry) : Write :=
  let registration := registry.registration manifest.release.dataset
  .register (registry.put manifest.release.dataset
    { registration with versions := registration.versions.insert manifest.release.version manifest })

/-- `_commit_staged`. -/
def commitStaged (s : PublicDataStore) (temporary : ReleaseDirectory) :
    Except PublicDataError (List Write × DatasetManifest) := do
  let manifest := temporary.manifest
  let registry ← s.loadRegistry
  match s.releases.lookup (manifest.release.dataset, manifest.release.version) with
  | some destination =>
    validateRecoverableRelease destination.manifest manifest
    validateReleaseDirectory (s.releasePath manifest.release.dataset manifest.release.version)
      (some destination) destination.manifest
    match (registry.registration manifest.release.dataset).versions.lookup manifest.release.version with
    | some existing => return ([], existing)
    | none => return ([registerStaged destination.manifest registry], destination.manifest)
  | none =>
    return ([.install manifest.release.dataset manifest.release.version temporary,
      registerStaged manifest registry], manifest)

/-- `stage`, with the name of its temporary directory. -/
def stage (s : PublicDataStore) (adapter : PublicDataAdapter) (temporary : String) (now : DateTime) :
    Except PublicDataError (List Write × DatasetManifest) := do
  require adapter.release.sourceSha256.isSome
    (.validation "A source-file SHA-256 checksum is required before staging.")
  let (recordCount, contentSha256) ← writeValidatedRecords adapter.records
  let manifest : DatasetManifest :=
    { release := adapter.release, recordCount, contentSha256, stagedAt := now }
  let directory : ReleaseDirectory := { manifest, records := adapter.records }
  validateReleaseDirectory temporary (some directory) manifest
  s.commitStaged directory

/-- The versions with the active one superseded. -/
def supersede (registration : DatasetRegistration) :
    Except PublicDataError (Dict String DatasetManifest) :=
  match registration.activeVersion with
  | none => .ok registration.versions
  | some previous => do
    let previousManifest ← found (registration.versions.lookup previous) (.keyError previous)
    return registration.versions.insert previous { previousManifest with status := .superseded }

/-- `_activate_locked`. -/
def activateLocked (s : PublicDataStore) (registry : PublicDataRegistry) (dataset : DatasetKind)
    (version : String) (now : DateTime) : Except PublicDataError (List Write × DatasetManifest) := do
  let manifest ← s.validateRegistered registry dataset version
  let registration := registry.registration dataset
  if registration.activeVersion = some version then return ([], manifest)
  else do
    let versions ← supersede registration
    let activeManifest := { manifest with status := .active, activatedAt := some now }
    return ([.register (registry.put dataset
      { activeVersion := some version
        activationHistory := (registration.activationHistory.filter (· ≠ version)) ++ [version]
        versions := versions.insert version activeManifest })], activeManifest)

/-- `activate`. -/
def activate (s : PublicDataStore) (dataset : DatasetKind) (version : String) (now : DateTime) :
    Except PublicDataError (List Write × DatasetManifest) := do
  let registry ← s.loadRegistry
  s.activateLocked registry dataset version now

/-- `rollback`. -/
def rollback (s : PublicDataStore) (dataset : DatasetKind) (now : DateTime) :
    Except PublicDataError (List Write × DatasetManifest) := do
  let registry ← s.loadRegistry
  let registration := registry.registration dataset
  let candidates := registration.activationHistory.reverse.filter
    fun version => some version ≠ registration.activeVersion
  match candidates with
  | [] => .error (.notFound ("No previous activated " ++ dataset.value ++ " release is available."))
  | version :: _ => s.activateLocked registry dataset version now

def apply (s : PublicDataStore) : Write → PublicDataStore
  | .install dataset version directory =>
    { s with releases := s.releases.insert (dataset, version) directory }
  | .register registry => { s with registry }

end PublicDataStore

inductive Operation
  | stage (adapter : PublicDataAdapter) (temporary : String)
  | activate (dataset : DatasetKind) (version : String)
  | rollback (dataset : DatasetKind)

/-- A call of an operation that gets through so many of its writes: all of them
where it succeeds, and any number of them where it fails. -/
structure Attempt where
  operation : Operation
  now : DateTime
  writes : Nat

namespace PublicDataStore

def perform (s : PublicDataStore) (now : DateTime) :
    Operation → Except PublicDataError (List Write × DatasetManifest)
  | .stage adapter temporary => s.stage adapter temporary now
  | .activate dataset version => s.activate dataset version now
  | .rollback dataset => s.rollback dataset now

def attempt (s : PublicDataStore) (call : Attempt) : PublicDataStore :=
  match s.perform call.now call.operation with
  | .ok (writes, _) => (writes.take call.writes).foldl apply s
  | .error _ => s

end PublicDataStore

end RankRent.PublicData
