import RankRent.PublicData.Recovery

/-!
# Crashes while staging

Runs of stages, activations and rollbacks that stop at any access. A release that
was stopped is staged again, once the lock can be had.
-/

namespace RankRent.PublicData
open Checks Interrupts

inductive StoreCall
  | stage (adapter : PublicDataAdapter)
  | activate (dataset : DatasetKind) (version : String)
  | rollback (dataset : DatasetKind)

/-- A call, and what happens at its accesses. -/
structure Undertaking where
  call : StoreCall
  surroundings : Surroundings
  events : List Event := []

/-- The files a call leaves, however it ends. -/
def left {α : Type} : EStateM.Result (Stop StagingError) (World Disk) α → Disk
  | .ok _ after => after.state
  | .error _ after => after.state

def StoreCall.operation (s : Surroundings) : StoreCall → Operation
  | .stage adapter => .stage adapter s.temporary
  | .activate dataset version => .activate dataset version
  | .rollback dataset => .rollback dataset

/-- An adapter with accepted records, whose text is one of `contents`. -/
structure PublicDataAdapter.Fits (reader : PyJson.Reader) (contents : Set String) (adapter : PublicDataAdapter) :
    Prop where
  valid : ∀ record ∈ adapter.records, record.Valid reader
  text : recordsText adapter.records ∈ contents

def StoreCall.Fits (reader : PyJson.Reader) (contents : Set String) : StoreCall → Prop
  | .stage adapter => adapter.Fits reader contents
  | _ => True

section Runs
variable (reader : PyJson.Reader) (lax : PyJson → Option PyJson) (timings : LockTimings) (contents : Set String)

def StoreCall.program (s : Surroundings) : StoreCall → StoreProgram DatasetManifest
  | .stage adapter => PublicData.stage reader lax timings s adapter
  | .activate dataset version => PublicData.activate reader lax timings s dataset version
  | .rollback dataset => PublicData.rollback reader lax timings s dataset

def Disk.undertake (d : Disk) (u : Undertaking) : Disk :=
  left (u.call.program reader lax timings u.surroundings ⟨d, u.events⟩)

/-- Runs of calls, each of which stops anywhere. -/
abbrev DiskRun : Disk → Disk → Prop :=
  Runs.Reaches (fun _ u => u.call.Fits reader contents) fun d u d' => d' = d.undertake reader lax timings u

/-- What staging keeps and what it recovers, from the files of `d`. -/
structure SurvivesCrashes (d : Disk) : Prop where
  /-- What is registered is there and validates. -/
  registered : ∀ dataset version manifest,
    (d.store.registry.registration dataset).versions.lookup version = some manifest →
      ∃ directory, d.store.releases.lookup (dataset, version) = some directory ∧
        ∀ path, validateReleaseFiles reader lax path (some directory) manifest = .ok ()
  /-- A release whose stage was stopped is staged again when the lock can be had. -/
  again : ∀ adapter s events manifest after, adapter.Fits reader contents →
    stage reader lax timings s adapter ⟨d, []⟩ = .ok manifest after →
      ∀ s' retrievedAt, let stopped := left (stage reader lax timings s adapter ⟨d, events⟩)
        stopped.temporaries.lookup s'.temporary = none →
          (Takes timings stopped.lock s'.first s'.rounds → ∃ manifest' after',
            stage reader lax timings s' (adapter.retrieved retrievedAt) ⟨stopped, []⟩ = .ok manifest' after' ∧
              after.state.store.Alike after'.state.store ∧ after'.state.lock = none) ∧
          (¬ Takes timings stopped.lock s'.first s'.rounds → ∃ after',
            stage reader lax timings s' (adapter.retrieved retrievedAt) ⟨stopped, []⟩ =
                .error (.raised .lockTimeout) after' ∧
              after'.state.store = stopped.store)
  /-- Another release or other records under a registered version are refused. -/
  different : ∀ adapter registered directory, adapter.Fits reader contents →
    (d.store.registry.registration adapter.release.dataset).versions.lookup adapter.release.version =
        some registered →
      d.store.releases.lookup (adapter.release.dataset, adapter.release.version) = some directory →
        ¬ (adapter.release.timeless = registered.release.timeless ∧
            adapter.records.map DatasetRecord.sorted = directory.records.map DatasetRecord.sorted) →
          ∀ s events, ∃ stop after, stage reader lax timings s adapter ⟨d, events⟩ = .error stop after ∧
            after.state.store = d.store ∧ (events = [] → ∃ e, stop = .raised e)
  /-- What is active gives the records of its adapter. -/
  active : ∀ adapter s events manifest after, adapter.Fits reader contents →
    stage reader lax timings s adapter ⟨d, events⟩ = .ok manifest after →
      ∀ later, DiskRun reader lax timings contents after.state later →
        later.store.active adapter.release.dataset = some adapter.release.version →
          later.activeRecords reader lax adapter.release.dataset none none =
            .ok (adapter.records.map DatasetRecord.sorted)

end Runs

/-! ## What every call keeps -/

/-- The release directories hold accepted records, whose texts are among `contents`. -/
def PublicDataStore.Filled (reader : PyJson.Reader) (contents : Set String) (s : PublicDataStore) : Prop :=
  ∀ key directory, s.releases.lookup key = some directory →
    (∀ record ∈ directory.records, record.Valid reader) ∧ recordsText directory.records ∈ contents

/-- What holds of the files in every run. -/
structure Disk.Kept (reader : PyJson.Reader) (contents : Set String) (d : Disk) : Prop where
  sound : d.store.Sound
  filled : d.store.Filled reader contents

section Kept
variable {reader : PyJson.Reader} {lax : PyJson → Option PyJson} {timings : LockTimings} {contents : Set String}
  {d : Disk}

theorem PublicDataStore.Filled.readable {s : PublicDataStore} (filled : s.Filled reader contents) : s.Readable reader :=
  fun key directory there => (filled key directory there).1

theorem left_of_triple {α : Type} {I : Disk → Prop} {Q : α → Disk → Prop} {w : World Disk}
    {result : EStateM.Result (Stop StagingError) (World Disk) α} (ended : Ended I Q w result)
    (done : ∀ a d, Q a d → I d) : I (left result) := by
  cases result with
  | ok a after => exact done a _ ended.1
  | error stop after => exact ended.1

variable (lax timings) in
/-- A call leaves some of the writes of the store's model. -/
theorem Disk.undertake_partly (readable : d.store.Readable reader) (u : Undertaking) :
    d.store.Partly (u.call.operation u.surroundings) u.surroundings.now (d.undertake reader lax timings u) := by
  obtain ⟨call, s, events⟩ := u
  cases call with
  | stage adapter =>
    exact left_of_triple (triple_stage s adapter readable ⟨d, events⟩ rfl) fun _ _ => PublicDataStore.Wholly.partly
  | activate dataset version =>
    exact left_of_triple (triple_activate s dataset version readable ⟨d, events⟩ rfl)
      fun _ _ => PublicDataStore.Wholly.partly
  | rollback dataset =>
    exact left_of_triple (triple_rollback s dataset readable ⟨d, events⟩ rfl) fun _ _ => PublicDataStore.Wholly.partly

variable (lax timings) in
/-- A call keeps what holds of the files, and the release directories that are there. -/
theorem Disk.Kept.undertake (kept : d.Kept reader contents) {u : Undertaking} (fits : u.call.Fits reader contents) :
    (d.undertake reader lax timings u).Kept reader contents ∧ ∀ key directory,
      d.store.releases.lookup key = some directory →
        (d.undertake reader lax timings u).store.releases.lookup key = some directory := by
  obtain ⟨k, attempted⟩ := d.undertake_partly lax timings kept.filled.readable u
  have sound := (kept.sound.attempt ⟨u.call.operation u.surroundings, u.surroundings.now, k⟩).1
  rw [← attempted] at sound
  obtain same | ⟨adapter, temporary, staged, absent, installed⟩ :=
    PublicDataStore.attempt_releases kept.sound ⟨u.call.operation u.surroundings, u.surroundings.now, k⟩
  · rw [← attempted] at same
    refine ⟨⟨sound, fun key directory there => ?_⟩, fun key directory there => ?_⟩
    · rw [same] at there
      exact kept.filled key directory there
    · rw [same]
      exact there
  · rw [← attempted] at installed
    have fits' : adapter.Fits reader contents := by
      obtain ⟨call, s, events⟩ := u
      cases call with
      | stage adapter' =>
        cases staged
        exact fits
      | activate dataset version => cases staged
      | rollback dataset => cases staged
    refine ⟨⟨sound, fun key directory there => ?_⟩, fun key directory there => ?_⟩
    · rw [installed] at there
      by_cases this_ : key = (adapter.release.dataset, adapter.release.version)
      · subst this_
        rw [AList.lookup_insert] at there
        cases there
        exact ⟨fits'.valid, fits'.text⟩
      · rw [AList.lookup_insert_ne this_] at there
        exact kept.filled key directory there
    · have apart : key ≠ (adapter.release.dataset, adapter.release.version) := by
        rintro rfl
        rw [absent] at there
        cases there
      rw [installed, AList.lookup_insert_ne apart]
      exact there

theorem DiskRun.kept {d' : Disk} (run : DiskRun reader lax timings contents d d') (kept : d.Kept reader contents) :
    d'.Kept reader contents ∧ ∀ key directory, d.store.releases.lookup key = some directory →
      d'.store.releases.lookup key = some directory := by
  induction run with
  | refl => exact ⟨kept, fun _ _ there => there⟩
  | tail _ last ih =>
    obtain ⟨u, fits, rfl⟩ := last
    obtain ⟨kept', stay⟩ := ih.1.undertake lax timings fits
    exact ⟨kept', fun key directory there => stay key directory (ih.2 key directory there)⟩

theorem Disk.kept_empty (root : String) : ({ store := { root } } : Disk).Kept reader contents := by
  refine ⟨PublicDataStore.sound_empty root, fun key directory there => ?_⟩
  simp at there

/-! ## What a stage did -/

variable (lax timings) in
theorem stage_ended (kept : d.Kept reader contents) (s : Surroundings) (adapter : PublicDataAdapter)
    (events : List Event) :
    Ended (d.store.Partly (.stage adapter s.temporary) s.now) (d.store.Wholly (.stage adapter s.temporary) s.now)
      ⟨d, events⟩ (stage reader lax timings s adapter ⟨d, events⟩) :=
  triple_stage s adapter kept.filled.readable ⟨d, events⟩ rfl

/-- A stage that gave a manifest did what the store's model says. -/
theorem stage_wholly (kept : d.Kept reader contents) {s : Surroundings} {adapter : PublicDataAdapter}
    {events : List Event} {manifest : DatasetManifest} {after : World Disk}
    (staged : stage reader lax timings s adapter ⟨d, events⟩ = .ok manifest after) : ∃ writes,
      d.store.stage adapter s.temporary s.now = .ok (writes, manifest) ∧
        after.state.store = writes.foldl PublicDataStore.apply d.store := by
  have ended := stage_ended lax timings kept s adapter events
  rw [staged] at ended
  exact ended.1

/-- Records with the same digest are the same. -/
theorem sorted_of_digest (collisionFree : Set.InjOn Sha256.hexdigest contents) {records records' : List DatasetRecord}
    (valid : ∀ record ∈ records, record.Valid reader) (valid' : ∀ record ∈ records', record.Valid reader)
    (text : recordsText records ∈ contents) (text' : recordsText records' ∈ contents)
    (same : digest records = digest records') :
    records.map DatasetRecord.sorted = records'.map DatasetRecord.sorted := by
  have texts : recordsText records = recordsText records' := collisionFree text text' same
  have read := readRecordsText_recordsText (fun _ => none) valid ""
  rw [texts, readRecordsText_recordsText _ valid'] at read
  exact (Except.ok.inj read).symm

variable (lax) in
theorem Disk.Kept.registered (kept : d.Kept reader contents) {dataset : DatasetKind} {version : String}
    {manifest : DatasetManifest}
    (known : (d.store.registry.registration dataset).versions.lookup version = some manifest) :
    ∃ directory, d.store.releases.lookup (dataset, version) = some directory ∧
      ∀ path, validateReleaseFiles reader lax path (some directory) manifest = .ok () := by
  obtain ⟨directory, there, same⟩ := kept.sound.installed dataset version manifest known
  refine ⟨directory, there, fun path => ?_⟩
  rw [validateReleaseFiles_eq (by
    rintro _ ⟨⟩
    exact (kept.filled _ _ there).1)]
  exact PublicDataStore.validate_written (kept.sound.directories _ _ _ there) same

/-- What is active is read from its release directory. -/
theorem Disk.Kept.activeRecords (kept : d.Kept reader contents) {dataset : DatasetKind} {version : String}
    {directory : ReleaseDirectory} (active : d.store.active dataset = some version)
    (there : d.store.releases.lookup (dataset, version) = some directory) :
    d.activeRecords reader lax dataset none none = .ok (directory.records.map DatasetRecord.sorted) := by
  obtain ⟨manifest, known⟩ := Option.isSome_iff_exists.mp
    (AList.lookup_isSome.mpr ((kept.sound.registrations dataset).valid.1 version active))
  obtain ⟨directory', there', same⟩ := kept.sound.installed dataset version manifest known
  obtain ⟨directory'', there'', validates⟩ := kept.registered lax known
  rw [there] at there' there''
  cases there'
  cases there''
  have named : manifest.release.version = version := by
    rw [same.release]
    exact (kept.sound.directories _ _ _ there).version
  subst named
  have found_ : d.store.activeManifest dataset = .ok (some manifest) := by
    rw [PublicDataStore.activeManifest, kept.sound.load]
    simp only [Effects.ok_bind, show (d.store.registry.registration dataset).activeVersion = some _ from active,
      known]
    rfl
  have read := readRecordsText_recordsText lax (kept.filled _ _ there).1
  simp only [Disk.activeRecords, found_, Effects.ok_bind, kept.sound.load, known, there, validates, found, read]
  simp [pure, Except.pure]

end Kept

/-- SHA-256 does not collide on the texts of the releases. In every run of stages,
activations and rollbacks that stop at any of their accesses, what is registered
validates; a release whose stage was stopped is staged again, as an undisturbed stage
would have staged it, when the lock can be had, and not before; a registered version
stays what it is; and what is active gives the records of its adapter, in their order. -/
theorem staging_survives {reader : PyJson.Reader} {lax : PyJson → Option PyJson} {timings : LockTimings}
    {contents : Set String} (collisionFree : Set.InjOn Sha256.hexdigest contents) {root : String} {d : Disk}
    (run : DiskRun reader lax timings contents { store := { root } } d) :
    SurvivesCrashes reader lax timings contents d := by
  have kept := (run.kept (Disk.kept_empty root)).1
  constructor
  · intro dataset version manifest known
    exact kept.registered lax known
  · intro adapter s events manifest after fits staged s' retrievedAt stopped fresh
    obtain ⟨writes, done, finished⟩ := stage_wholly kept staged
    let u : Undertaking := ⟨.stage adapter, s, events⟩
    have kept' : stopped.Kept reader contents := (kept.undertake lax timings (u := u) fits).1
    obtain ⟨k, attempted⟩ : d.store.Partly (.stage adapter s.temporary) s.now stopped :=
      d.undertake_partly lax timings kept.filled.readable u
    obtain ⟨writes', manifest', done', alike⟩ := PublicDataStore.stage_again kept.sound done k s'.temporary s'.now
      retrievedAt
    rw [← attempted] at done' alike
    have valid : ∀ record ∈ (adapter.retrieved retrievedAt).records, record.Valid reader := fits.valid
    constructor
    · intro takes
      obtain ⟨temporaries, ran⟩ := stage_works lax timings fresh kept'.filled.readable valid takes done'
      refine ⟨manifest', _, ran, ?_, rfl⟩
      rw [finished]
      exact alike
    · intro taken
      obtain ⟨lock, ran⟩ := stage_timeout lax timings fresh valid taken done'
      exact ⟨_, ran, rfl⟩
  · intro adapter registered directory fits known there differs s events
    have ended := stage_ended lax timings kept s adapter events
    cases result : stage reader lax timings s adapter ⟨d, events⟩ with
    | ok manifest after =>
      obtain ⟨writes, done, -⟩ := stage_wholly kept result
      obtain ⟨release, content⟩ := PublicDataStore.stage_registered kept.sound done known there
      obtain ⟨valid, text⟩ := kept.filled _ _ there
      exact absurd ⟨release.symm, (sorted_of_digest collisionFree valid fits.valid text fits.text content).symm⟩ differs
    | error stop after =>
      rw [result] at ended
      obtain ⟨⟨k, attempted⟩, quiet⟩ := ended
      refine ⟨stop, after, rfl, ?_, fun none => (quiet none).2⟩
      cases performed : d.store.perform s.now (.stage adapter s.temporary) with
      | error e =>
        rw [PublicDataStore.attempt, performed] at attempted
        exact attempted
      | ok result' =>
        obtain ⟨writes, manifest⟩ := result'
        obtain ⟨release, content⟩ := PublicDataStore.stage_registered kept.sound performed known there
        obtain ⟨valid, text⟩ := kept.filled _ _ there
        exact absurd ⟨release.symm, (sorted_of_digest collisionFree valid fits.valid text fits.text content).symm⟩
          differs
  · intro adapter s events manifest after fits staged later run' active
    obtain ⟨writes, done, finished⟩ := stage_wholly kept staged
    obtain ⟨directory, there, -, content⟩ := PublicDataStore.stage_installed kept.sound done
    let u : Undertaking := ⟨.stage adapter, s, events⟩
    have here : d.undertake reader lax timings u = after.state := congrArg left staged
    have kept' := (kept.undertake lax timings (u := u) fits).1
    rw [here] at kept'
    rw [← finished] at there
    obtain ⟨kept'', stay⟩ := run'.kept kept'
    have there' := stay _ _ there
    obtain ⟨valid, text⟩ := kept''.filled _ _ there'
    rw [kept''.activeRecords active there', sorted_of_digest collisionFree valid fits.valid text fits.text content]

/-! ## A crash under the lock -/

/-- A reader of ASCII that takes the text of a float as it is. -/
def asciiReader : PyJson.Reader where
  decode bytes := some (bytes.map fun byte => Char.ofNat byte.toNat)
  float := String.ofList

def emptyRoot : Disk := { store := { root := "data" } }

/-- The businesses of a county. -/
def countyAdapter : PublicDataAdapter :=
  ⟨release "2022-v1", [⟨"tx", "48453", "county", [("establishments", .num 12)], []⟩]⟩

/-- A stage at `time`, that looks for the lock once. -/
def stagedAt (temporary : String) (time : ℚ) : Surroundings :=
  { temporary, token := temporary, first := ⟨time, false⟩, rounds := [], now := 1 }

/-- The process ends when it has the lock. -/
def underTheLock : List Event := List.replicate 10 .works ++ [.dies]

theorem countyAdapter_fits : countyAdapter.Fits asciiReader {recordsText countyAdapter.records} := by
  refine ⟨fun record member => ?_, rfl⟩
  rw [countyAdapter, List.mem_singleton] at member
  subst member
  constructor
  · exact ⟨by decide +kernel, by decide⟩
  · exact ⟨by decide +kernel, by decide⟩
  · exact ⟨by decide +kernel, by decide⟩
  · exact List.cons_ne_nil _ _
  · exact List.nodup_singleton _
  · intro item member
    rw [List.mem_singleton] at member
    subst member
    exact ⟨by decide +kernel, trivial⟩
  · exact List.nodup_nil

/-- A stage crashes under the lock, and once the lock is stale the release is staged and
activated. -/
theorem crashed_stage_recovered :
    SurvivesCrashes asciiReader (fun _ => none) defaultTimings {recordsText countyAdapter.records}
      (([⟨.stage countyAdapter, stagedAt "a" 0, underTheLock⟩,
          ⟨.stage countyAdapter, { stagedAt "b" 300 with rounds := [⟨301, false⟩] }, []⟩,
          ⟨.activate .cbp "2022-v1", stagedAt "c" 302, []⟩] : List Undertaking).foldl
        (Disk.undertake asciiReader (fun _ => none) defaultTimings) emptyRoot) := by
  refine staging_survives (Set.injOn_singleton _ _) (Runs.Allowed.reaches ?_)
  exact ⟨countyAdapter_fits, countyAdapter_fits, trivial, trivial⟩

theorem countyAdapter_stages (temporary : String) : ∃ writes manifest,
    ({ root := "data" } : PublicDataStore).stage countyAdapter temporary 1 = .ok (writes, manifest) := by
  have absent : ({ root := "data" } : PublicDataStore).releases.lookup
      (countyAdapter.release.dataset, countyAdapter.release.version) = none := rfl
  have committed := PublicDataStore.commit_absent (PublicDataStore.sound_empty "data")
    (countyAdapter.directory 1) absent
  exact ⟨_, _, (countyAdapter.stage_ok rfl rfl (List.cons_ne_nil _ _)).trans committed⟩

/-- The crash leaves the lock, and the release in its temporary directory. -/
def afterTheCrash : Disk :=
  ⟨{ root := "data" }, [("a", ⟨countyAdapter.records, some (countyAdapter.manifest 1)⟩)], some ⟨0, some "a"⟩⟩

theorem crashed_stage : stage asciiReader (fun _ => none) defaultTimings (stagedAt "a" 0) countyAdapter
    ⟨emptyRoot, underTheLock⟩ = .error .died ⟨afterTheCrash, []⟩ := by
  have complete : validateReleaseFiles asciiReader (fun _ => none) "a"
      (some ⟨countyAdapter.manifest 1, countyAdapter.records⟩) (countyAdapter.manifest 1) = .ok () := by
    rw [validateReleaseFiles_eq (by
      rintro _ ⟨⟩
      exact countyAdapter_fits.valid)]
    exact countyAdapter.validates "a" 1
  have fresh : emptyRoot.temporaries.lookup "a" = none := rfl
  have source : countyAdapter.release.sourceSha256.isSome = true := rfl
  have some_ : countyAdapter.records ≠ [] := List.cons_ne_nil _ _
  have temporary : (stagedAt "a" 0).temporary = "a" := rfl
  have now : (stagedAt "a" 0).now = 1 := rfl
  have there := Disk.temporaryRelease_holding fresh countyAdapter.records (countyAdapter.manifest 1)
  -- the accesses: three before the records, four with them, and three for the lock
  have made (rest : List Event) : makeTemporary "a" ⟨emptyRoot, .works :: .works :: rest⟩ =
      .ok () ⟨emptyRoot.holding "a" {}, rest⟩ := rfl
  have wrote (rest : List Event) : writeRecords "a" [] countyAdapter.records
      ⟨emptyRoot.holding "a" {}, .works :: rest⟩ =
        .ok () ⟨emptyRoot.holding "a" ⟨countyAdapter.records, none⟩, rest⟩ := rfl
  have died : commitStaged asciiReader (fun _ => none) defaultTimings (stagedAt "a" 0) (countyAdapter.manifest 1)
      ⟨emptyRoot.holding "a" ⟨countyAdapter.records, some (countyAdapter.manifest 1)⟩,
        [.works, .works, .works, .dies]⟩ = .error .died ⟨afterTheCrash, []⟩ := rfl
  have filled : fillAndCommit asciiReader (fun _ => none) defaultTimings (stagedAt "a" 0) countyAdapter
      ⟨emptyRoot.holding "a" {}, [.works, .works, .works, .works, .works, .works, .works, .dies]⟩ =
        .error .died ⟨afterTheCrash, []⟩ := by
    simp only [fillAndCommit, Effects.bind_at, touch, read_step, temporary, now, wrote, require, if_pos some_,
      validated_ok, write_step, Disk.update_holding fresh, there, complete]
    exact died
  simp only [stage, Effects.bind_at, touch, underTheLock, List.replicate, List.cons_append, List.nil_append, read_step,
    temporary, require, if_pos source, validated_ok, made, handled, filled]

/-- While its lock is fresh a release whose stage has crashed cannot be staged again. -/
theorem crashed_stage_locked :
    (∃ manifest after, stage asciiReader (fun _ => none) defaultTimings (stagedAt "a" 0) countyAdapter
        ⟨emptyRoot, []⟩ = .ok manifest after) ∧
      ∃ after, stage asciiReader (fun _ => none) defaultTimings { stagedAt "b" 1 with rounds := [⟨11, false⟩] }
        countyAdapter ⟨left (stage asciiReader (fun _ => none) defaultTimings (stagedAt "a" 0) countyAdapter
          ⟨emptyRoot, underTheLock⟩), []⟩ = .error (.raised .lockTimeout) after := by
  constructor
  · obtain ⟨writes, manifest, done⟩ := countyAdapter_stages "a"
    have readable : ({ root := "data" } : PublicDataStore).Readable asciiReader :=
      (show Disk.Kept asciiReader ∅ emptyRoot from Disk.kept_empty "data").filled.readable
    obtain ⟨temporaries, ran⟩ := stage_works (fun _ => none) defaultTimings (s := stagedAt "a" 0)
      (d := emptyRoot) rfl readable countyAdapter_fits.valid rfl done
    exact ⟨manifest, _, ran⟩
  · rw [crashed_stage]
    obtain ⟨writes, manifest, done⟩ := countyAdapter_stages "b"
    have taken : ¬ Takes defaultTimings (some ⟨0, some "a"⟩) ⟨1, false⟩ [⟨11, false⟩] := by
      have kept : ¬ RegistryLock.Removable defaultTimings ⟨0, some "a"⟩ ⟨1, false⟩ := by
        rintro ⟨old, -⟩
        norm_num [defaultTimings] at old
      simp [Takes, staysLocked, kept]
    let again : Surroundings := { stagedAt "b" 1 with rounds := [⟨11, false⟩] }
    have fresh : afterTheCrash.temporaries.lookup again.temporary = none := by
      simp [afterTheCrash, again, stagedAt]
    obtain ⟨lock, ran⟩ := stage_timeout (fun _ => none) defaultTimings (d := afterTheCrash) (s := again)
      fresh countyAdapter_fits.valid taken done
    exact ⟨_, ran⟩

end RankRent.PublicData
