import RankRent.Library.PyDict
import RankRent.Library.PyFloat
import RankRent.PublicData.Registry

/-!
# Snapshots

`PublicDataStore.snapshot`: what the active releases report of one geography, and of
its county where the release counts businesses.
-/

namespace RankRent.PublicData
open Checks

/-- A value of a record; what is stored is finite. -/
def measurement : PyJson → Option ℚ
  | .num n => some n
  | .float repr =>
    match PyFloat.ofText? repr with
    | some (.finite value) => some value
    | _ => none
  | _ => none

/-- `values.get(measure)`. -/
def DatasetRecord.measure (record : DatasetRecord) (measure : String) : Option ℚ :=
  (record.values.lookup measure).bind measurement

structure PublicDataSnapshot where
  geographyId : String
  records : List (DatasetKind × List DatasetRecord)
  manifests : List (DatasetKind × DatasetManifest)
  warnings : List String

/-- `snapshot.records.get(dataset, [])`. -/
def PublicDataSnapshot.recordsOf (snapshot : PublicDataSnapshot) (dataset : DatasetKind) : List DatasetRecord :=
  (snapshot.records.lookup dataset).getD []

/-- `snapshot.manifests.get(dataset)`. -/
def PublicDataSnapshot.manifestOf (snapshot : PublicDataSnapshot) (dataset : DatasetKind) : Option DatasetManifest :=
  snapshot.manifests.lookup dataset

/-- The datasets in the order of `DatasetKind`. -/
def datasetKinds : List DatasetKind := [.acs, .cbp, .nes, .noaa, .fema]

namespace PublicDataStore

/-- `active_manifest`. -/
def activeManifest (s : PublicDataStore) (dataset : DatasetKind) : Except PublicDataError (Option DatasetManifest) := do
  let registry ← s.loadRegistry
  let registration := registry.registration dataset
  match registration.activeVersion with
  | none => return none
  | some version => return some (← found (registration.versions.lookup version) (.keyError version))

/-- `_read_records` of a release. -/
def readRecords (s : PublicDataStore) (dataset : DatasetKind) (version : String) :
    Except PublicDataError (List DatasetRecord) := do
  let directory ← found (s.releases.lookup (dataset, version))
    (.validation ("Dataset release is incomplete: " ++ s.releasePath dataset version))
  return directory.records

/-- `active_records`. -/
def activeRecords (s : PublicDataStore) (dataset : DatasetKind) (geographyId sourceGeoid : Option String) :
    Except PublicDataError (List DatasetRecord) := do
  match ← s.activeManifest dataset with
  | none => return []
  | some manifest =>
    let registry ← s.loadRegistry
    let _ ← s.validateRegistered registry dataset manifest.release.version
    let records ← s.readRecords dataset manifest.release.version
    return records.filter fun record =>
      (geographyId = none ∨ geographyId = some record.geographyId) ∧
        (sourceGeoid = none ∨ sourceGeoid = some record.sourceGeoid)

/-- The records of a dataset for a geography; `countyFips` is empty where there is no
county. -/
def datasetRecords (s : PublicDataStore) (dataset : DatasetKind) (geographyId countyFips : String) :
    Except PublicDataError (List DatasetRecord) := do
  let records ← s.activeRecords dataset (some geographyId) none
  if (dataset = .cbp ∨ dataset = .nes) ∧ countyFips ≠ "" then
    let countyRecords ← s.activeRecords dataset none (some countyFips)
    let identities := records.map DatasetRecord.identity
    return records ++ countyRecords.filter fun record => record.identity ∉ identities
  else return records

/-- The warning of a release that is older than its threshold. -/
def ageWarning (dataset : DatasetKind) (manifest : DatasetManifest) (warningAgeDays : List (DatasetKind × ℤ))
    (today : Date) : List String :=
  let ageDays := today - manifest.release.releaseDate
  match warningAgeDays.lookup dataset with
  | none => []
  | some threshold =>
    if threshold < ageDays then
      [dataset.value.toUpper ++ " " ++ manifest.release.version ++ " is " ++ toString ageDays ++
        " days past release; warning threshold is " ++ toString threshold ++ " days."]
    else []

/-- A round of the loop of `snapshot`. -/
def addDataset (s : PublicDataStore) (countyFips : String) (warningAgeDays : List (DatasetKind × ℤ)) (today : Date)
    (snapshot : PublicDataSnapshot) (dataset : DatasetKind) : Except PublicDataError PublicDataSnapshot := do
  match ← s.activeManifest dataset with
  | none => return snapshot
  | some manifest =>
    let records ← s.datasetRecords dataset snapshot.geographyId countyFips
    return { snapshot with
      records := PyDict.setItem snapshot.records dataset records
      manifests := PyDict.setItem snapshot.manifests dataset manifest
      warnings := snapshot.warnings ++ ageWarning dataset manifest warningAgeDays today }

/-- `snapshot`. -/
def snapshot (s : PublicDataStore) (geographyId countyFips : String) (warningAgeDays : List (DatasetKind × ℤ))
    (today : Date) : Except PublicDataError PublicDataSnapshot :=
  datasetKinds.foldlM (s.addDataset countyFips warningAgeDays today) ⟨geographyId, [], [], []⟩

/-! ### What a snapshot holds -/

variable {s : PublicDataStore} {countyFips : String} {warningAgeDays : List (DatasetKind × ℤ)} {today : Date}

/-- A snapshot has the active manifest of a dataset, and its records. -/
def Holds (s : PublicDataStore) (countyFips : String) (snapshot : PublicDataSnapshot) (dataset : DatasetKind) : Prop :=
  s.activeManifest dataset = .ok (snapshot.manifestOf dataset) ∧
    ∀ manifest, snapshot.manifestOf dataset = some manifest →
      s.datasetRecords dataset snapshot.geographyId countyFips = .ok (snapshot.recordsOf dataset)

/-- A round fills in its dataset, and leaves the others as they are. -/
theorem addDataset_ok {before after : PublicDataSnapshot} {dataset : DatasetKind}
    (fresh : before.manifestOf dataset = none)
    (ran : s.addDataset countyFips warningAgeDays today before dataset = .ok after) :
    after.geographyId = before.geographyId ∧ s.Holds countyFips after dataset ∧
      ∀ other, other ≠ dataset →
        after.manifestOf other = before.manifestOf other ∧ after.recordsOf other = before.recordsOf other := by
  unfold addDataset at ran
  rw [bind_ok] at ran
  obtain ⟨active, known, ran⟩ := ran
  cases active with
  | none =>
    obtain rfl := pure_ok.mp ran
    refine ⟨rfl, ⟨by rw [known, fresh], ?_⟩, fun _ _ => ⟨rfl, rfl⟩⟩
    intro manifest there
    rw [fresh] at there
    cases there
  | some manifest =>
    obtain ⟨records, read, ran⟩ := bind_ok.mp ran
    obtain rfl := pure_ok.mp ran
    refine ⟨rfl, ⟨?_, ?_⟩, ?_⟩
    · simp [known, PublicDataSnapshot.manifestOf]
    · intro _ _
      simp [read, PublicDataSnapshot.recordsOf]
    · intro other ne
      simp [PublicDataSnapshot.manifestOf, PublicDataSnapshot.recordsOf, PyDict.lookup_setItem_of_ne _ _ ne]

theorem Holds.congr {before after : PublicDataSnapshot} {dataset : DatasetKind}
    (holds : s.Holds countyFips before dataset) (id : after.geographyId = before.geographyId)
    (manifest : after.manifestOf dataset = before.manifestOf dataset)
    (records : after.recordsOf dataset = before.recordsOf dataset) : s.Holds countyFips after dataset := by
  unfold Holds
  rw [id, manifest, records]
  exact holds

/-- The rounds over distinct datasets. -/
theorem foldlM_addDataset {datasets : List DatasetKind} {before after : PublicDataSnapshot}
    (distinct : datasets.Nodup) (fresh : ∀ dataset ∈ datasets, before.manifestOf dataset = none)
    (ran : datasets.foldlM (s.addDataset countyFips warningAgeDays today) before = .ok after) :
    after.geographyId = before.geographyId ∧ (∀ dataset ∈ datasets, s.Holds countyFips after dataset) ∧
      ∀ other ∉ datasets,
        after.manifestOf other = before.manifestOf other ∧ after.recordsOf other = before.recordsOf other := by
  induction datasets generalizing before with
  | nil =>
    obtain rfl := pure_ok.mp ran
    exact ⟨rfl, by simp, fun _ _ => ⟨rfl, rfl⟩⟩
  | cons dataset datasets ih =>
    rw [List.foldlM_cons, bind_ok] at ran
    obtain ⟨middle, first, rest⟩ := ran
    obtain ⟨apart, distinct⟩ := List.nodup_cons.mp distinct
    obtain ⟨id, holds, kept⟩ := addDataset_ok (fresh dataset List.mem_cons_self) first
    have later : ∀ other ∈ datasets, middle.manifestOf other = none := by
      intro other member
      have ne : other ≠ dataset := fun same => apart (same ▸ member)
      rw [(kept other ne).1]
      exact fresh other (List.mem_cons_of_mem dataset member)
    obtain ⟨id', holds', kept'⟩ := ih distinct later rest
    refine ⟨id'.trans id, List.forall_mem_cons.mpr ⟨?_, holds'⟩, ?_⟩
    · obtain ⟨manifest, records⟩ := kept' dataset apart
      exact holds.congr id' manifest records
    · intro other absent
      obtain ⟨ne, absent⟩ := not_or.mp (List.mem_cons.not.mp absent)
      obtain ⟨manifest, records⟩ := kept other ne
      obtain ⟨manifest', records'⟩ := kept' other absent
      exact ⟨manifest'.trans manifest, records'.trans records⟩

theorem snapshot_holds {geographyId : String} {snapshot : PublicDataSnapshot}
    (taken : s.snapshot geographyId countyFips warningAgeDays today = .ok snapshot) (dataset : DatasetKind) :
    snapshot.geographyId = geographyId ∧ s.Holds countyFips snapshot dataset := by
  have distinct : datasetKinds.Nodup := by decide
  obtain ⟨id, holds, -⟩ := foldlM_addDataset distinct (fun _ _ => rfl) taken
  have known : dataset ∈ datasetKinds := by cases dataset <;> decide
  exact ⟨id, holds dataset known⟩

/-- The release a dataset has active, and its records. -/
def ActiveRelease (s : PublicDataStore) (dataset : DatasetKind) (release : List DatasetRecord) : Prop :=
  ∃ manifest, s.activeManifest dataset = .ok (some manifest) ∧
    s.readRecords dataset manifest.release.version = .ok release

/-- `active_records` are a part of the active release. -/
theorem activeRecords_ok {dataset : DatasetKind} {release records : List DatasetRecord}
    {geographyId sourceGeoid : Option String} (active : s.ActiveRelease dataset release)
    (read : s.activeRecords dataset geographyId sourceGeoid = .ok records) :
    records = release.filter fun record =>
      (geographyId = none ∨ geographyId = some record.geographyId) ∧
        (sourceGeoid = none ∨ sourceGeoid = some record.sourceGeoid) := by
  obtain ⟨manifest, known, stored⟩ := active
  obtain ⟨found, same, read⟩ := bind_ok.mp read
  rw [known] at same
  obtain rfl := Except.ok.inj same
  obtain ⟨registry, -, read⟩ := bind_ok.mp read
  obtain ⟨-, -, read⟩ := bind_ok.mp read
  obtain ⟨all, same, read⟩ := bind_ok.mp read
  rw [stored] at same
  obtain rfl := Except.ok.inj same
  exact (pure_ok.mp read).symm

/-- The records of businesses are the geography's own and, under another geography, those
of the county's five digits. -/
theorem mem_datasetRecords {dataset : DatasetKind} {release records : List DatasetRecord} {geographyId : String}
    (counts : dataset = .cbp ∨ dataset = .nes) (active : s.ActiveRelease dataset release)
    (read : s.datasetRecords dataset geographyId countyFips = .ok records) (record : DatasetRecord) :
    record ∈ records ↔ record ∈ release ∧
      (record.geographyId = geographyId ∨ countyFips ≠ "" ∧ record.sourceGeoid = countyFips) := by
  obtain ⟨own, first, read⟩ := bind_ok.mp read
  obtain rfl := activeRecords_ok active first
  by_cases county : countyFips = ""
  · rw [if_neg fun both => both.2 county] at read
    obtain rfl := pure_ok.mp read
    have own : geographyId = record.geographyId ↔ record.geographyId = geographyId := eq_comm
    simp [← own, county]
  · rw [if_pos ⟨counts, county⟩] at read
    obtain ⟨countyRecords, second, read⟩ := bind_ok.mp read
    obtain rfl := activeRecords_ok active second
    obtain rfl := pure_ok.mp read
    -- What has the identity of an own record is an own record.
    have identity (own : DatasetRecord) (same : own.identity = record.identity) : own.geographyId = record.geographyId :=
      congrArg Prod.fst same
    simp only [List.mem_append, List.mem_filter, List.mem_map, decide_eq_true_eq, reduceCtorEq, false_or, true_or,
      and_true, true_and, Option.some.injEq, not_exists, not_and]
    constructor
    · rintro (⟨member, id⟩ | ⟨⟨member, fips⟩, -⟩)
      · exact ⟨member, .inl id.symm⟩
      · exact ⟨member, .inr ⟨county, fips.symm⟩⟩
    · rintro ⟨member, place⟩
      by_cases id : record.geographyId = geographyId
      · exact .inl ⟨member, id.symm⟩
      · obtain ⟨-, fips⟩ := place.resolve_left id
        refine .inr ⟨⟨member, fips.symm⟩, ?_⟩
        rintro own ⟨-, there⟩ same
        exact id ((identity own same).symm.trans there.symm)

end PublicDataStore

end RankRent.PublicData
