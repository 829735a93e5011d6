import RankRent.PublicData.Staging

/-!
# Staging that nothing disturbs

When every access works and the lock can be had, `stage` does what the store's
model says of it.
-/

namespace RankRent.PublicData
open Checks Interrupts

/-! ## The files of a release -/

/-- The records of the release directories are records. -/
def PublicDataStore.Readable (reader : PyJson.Reader) (s : PublicDataStore) : Prop :=
  ∀ key directory, s.releases.lookup key = some directory → ∀ record ∈ directory.records, record.Valid reader

section Files
variable {reader : PyJson.Reader} {lax : PyJson → Option PyJson}

/-- Read from its text or not, a release is checked alike. -/
theorem validateReleaseFiles_eq {directory : Option ReleaseDirectory}
    (valid : ∀ found ∈ directory, ∀ record ∈ found.records, record.Valid reader) (path : String)
    (manifest : DatasetManifest) :
    validateReleaseFiles reader lax path directory manifest = validateReleaseDirectory path directory manifest := by
  cases directory with
  | none => rfl
  | some directory =>
    rw [validateReleaseFiles, validateReleaseDirectory]
    simp only [found, readRecordsText_recordsText lax (valid directory rfl), Effects.ok_bind, List.length_map]
    rfl

theorem PublicDataStore.Readable.found {s : PublicDataStore} (readable : s.Readable reader)
    (key : DatasetKind × String) :
    ∀ directory ∈ s.releases.lookup key, ∀ record ∈ directory.records, record.Valid reader :=
  fun directory there => readable key directory there

end Files

/-- What `stage` installs. -/
def PublicDataAdapter.directory (adapter : PublicDataAdapter) (now : DateTime) : ReleaseDirectory :=
  ⟨adapter.manifest now, adapter.records⟩

/-- The checks of a stage, one after the other. -/
theorem PublicDataStore.stage_eq (s : PublicDataStore) (adapter : PublicDataAdapter) (temporary : String)
    (now : DateTime) : s.stage adapter temporary now = (do
      let _ ← require adapter.release.sourceSha256.isSome
        (.validation "A source-file SHA-256 checksum is required before staging.")
      let _ ← checkIdentities [] adapter.records
      let _ ← require (adapter.records ≠ []) (.validation "A staged dataset cannot be empty.")
      let _ ← validateReleaseDirectory temporary (some (adapter.directory now)) (adapter.manifest now)
      s.commitStaged (adapter.directory now)) := by
  rw [PublicDataStore.stage, writeValidatedRecords]
  by_cases source : adapter.release.sourceSha256.isSome = true
  · cases checked : checkIdentities [] adapter.records with
    | error e =>
      simp only [require, if_pos source]
      rfl
    | ok _ =>
      by_cases some_ : adapter.records ≠ []
      · simp only [require, if_pos source, if_pos some_]
        rfl
      · simp only [require, if_pos source, if_neg some_]
        rfl
  · simp only [require, if_neg source]
    rfl

/-- What is staged passes the validation of its temporary directory. -/
theorem PublicDataAdapter.validates (adapter : PublicDataAdapter) (path : String) (now : DateTime) :
    validateReleaseDirectory path (some (adapter.directory now)) (adapter.manifest now) = .ok () := by
  simp only [validateReleaseDirectory, bind_ok, found_ok, require_ok]
  exact ⟨_, rfl, (), rfl, (), rfl, (), rfl, (), rfl, (), rfl, (), rfl, rfl⟩

/-! ## Temporary directories -/

namespace Disk

/-- The files with one more temporary directory. -/
def holding (d : Disk) (name : String) (files : Temporary) : Disk :=
  { d with temporaries := d.temporaries ++ [(name, files)] }

variable {d : Disk} {name : String}

theorem absent_of_lookup (fresh : d.temporaries.lookup name = none) : ∀ entry ∈ d.temporaries, entry.1 ≠ name := by
  intro entry member same
  rw [List.lookup_eq_none_iff] at fresh
  have apart := fresh entry member
  rw [same] at apart
  simp at apart

theorem update_holding (fresh : d.temporaries.lookup name = none) (files : Temporary) (f : Temporary → Temporary) :
    (d.holding name files).update name f = d.holding name (f files) := by
  have others : d.temporaries.map (fun entry => if entry.1 = name then (name, f entry.2) else entry) = d.temporaries := by
    refine (List.map_congr_left (g := id) fun entry member => ?_).trans (List.map_id _)
    rw [if_neg (absent_of_lookup fresh entry member)]
    rfl
  rw [update, holding, holding]
  simp [others]

theorem remove_holding (fresh : d.temporaries.lookup name = none) (files : Temporary) :
    (d.holding name files).remove name = d := by
  have others : (d.temporaries.filter fun entry => !decide (entry.1 = name)) = d.temporaries := by
    rw [List.filter_eq_self]
    intro entry member
    simp [absent_of_lookup fresh entry member]
  rw [remove, holding]
  simp [others]

theorem temporaryRelease_holding (fresh : d.temporaries.lookup name = none) (records : List DatasetRecord)
    (manifest : DatasetManifest) :
    (d.holding name ⟨records, some manifest⟩).temporaryRelease name = some ⟨manifest, records⟩ := by
  have found : (d.temporaries ++ [(name, (⟨records, some manifest⟩ : Temporary))]).lookup name =
      some ⟨records, some manifest⟩ := by
    rw [List.lookup_append, fresh]
    simp
  rw [temporaryRelease, holding, found]

end Disk

/-! ## The lock -/

section Lock
variable {timings : LockTimings} {d : Disk}

theorem makeLock_works (d : Disk) (token : String) (round : Round) :
    makeLock token round ⟨d, []⟩ = .ok () ⟨{ d with lock := some ⟨round.time, some token⟩ }, []⟩ := rfl

/-- The lock is had when it can be. -/
theorem acquireLock_works (token : String) {round : Round} {rounds : List Round}
    (takes : Takes timings d.lock round rounds) :
    ∃ mtime, acquireLock timings token round rounds ⟨d, []⟩ =
      .ok () ⟨{ d with lock := some ⟨mtime, some token⟩ }, []⟩ := by
  induction rounds generalizing d round with
  | nil =>
    refine ⟨round.time, ?_⟩
    have free : d.lock = none := takes
    simp only [acquireLock, Effects.bind_at, read_works, free]
    rfl
  | cons next rest ih =>
    cases held : d.lock with
    | none =>
      refine ⟨round.time, ?_⟩
      simp only [acquireLock, Effects.bind_at, read_works, held]
      rfl
    | some lock =>
      have later : Takes timings (d.removeStaleLock timings round).lock next rest := takes
      obtain ⟨mtime, ran⟩ := ih later
      refine ⟨mtime, ?_⟩
      simp only [acquireLock, Effects.bind_at, read_works, held, write_works, ran]
      rfl

/-- Where it cannot be had the time runs out. -/
theorem acquireLock_timeout (token : String) {round : Round} {rounds : List Round}
    (taken : ¬ Takes timings d.lock round rounds) :
    ∃ lock, acquireLock timings token round rounds ⟨d, []⟩ =
      .error (.raised .lockTimeout) ⟨{ d with lock := lock }, []⟩ := by
  have held {lock : Option RegistryLock} {round : Round} {rounds : List Round}
      (taken : ¬ Takes timings lock round rounds) : ∃ there, lock = some there := by
    cases lock with
    | some there => exact ⟨there, rfl⟩
    | none =>
      induction rounds generalizing round with
      | nil => exact absurd rfl taken
      | cons next rest ih => exact ih taken
  induction rounds generalizing d round with
  | nil =>
    obtain ⟨lock, there⟩ := held taken
    refine ⟨staysLocked timings d.lock round, ?_⟩
    simp only [acquireLock, Effects.bind_at, read_works, there, write_works, check_raises]
    rw [← there]
    rfl
  | cons next rest ih =>
    obtain ⟨lock, there⟩ := held taken
    have later : ¬ Takes timings (d.removeStaleLock timings round).lock next rest := taken
    obtain ⟨last, ran⟩ := ih later
    refine ⟨last, ?_⟩
    simp only [acquireLock, Effects.bind_at, read_works, there, write_works, ran]
    rfl

/-- A block under the lock, which it leaves alone. -/
theorem locked_works {α : Type} {body : StoreProgram α} {s : Surroundings} {a : α} (after : Disk)
    (takes : Takes timings d.lock s.first s.rounds)
    (ran : ∀ mtime, body ⟨{ d with lock := some ⟨mtime, some s.token⟩ }, []⟩ =
      .ok a ⟨{ after with lock := some ⟨mtime, some s.token⟩ }, []⟩) :
    locked timings s body ⟨d, []⟩ = .ok a ⟨{ after with lock := none }, []⟩ := by
  obtain ⟨mtime, acquired⟩ := acquireLock_works s.token takes
  have released : (Disk.releaseLock { after with lock := some ⟨mtime, some s.token⟩ } s.token) =
      { after with lock := none } := by
    exact if_pos rfl
  rw [locked, Effects.bind_at, acquired]
  dsimp only
  rw [ensured_ok (ran mtime), released]

theorem locked_timeout {α : Type} {s : Surroundings} (body : StoreProgram α)
    (taken : ¬ Takes timings d.lock s.first s.rounds) : ∃ lock,
      locked timings s body ⟨d, []⟩ = .error (.raised .lockTimeout) ⟨{ d with lock := lock }, []⟩ := by
  obtain ⟨lock, timeout⟩ := acquireLock_timeout s.token taken
  refine ⟨lock, ?_⟩
  rw [locked, Effects.bind_at, timeout]

end Lock

/-! ## The commit -/

@[simp] theorem validated_ok {α : Type} (a : α) (w : World Disk) : validated (.ok a) w = .ok a w := rfl

@[simp] theorem validated_error {α : Type} (e : PublicDataError) (w : World Disk) :
    (validated (.error e) : StoreProgram α) w = .error (.raised (.store e)) w := rfl

section Commit
variable {reader : PyJson.Reader} {lax : PyJson → Option PyJson} {d : Disk} {s : Surroundings}

theorem loadRegistry_at (d : Disk) : loadRegistry ⟨d, []⟩ = validated d.store.loadRegistry ⟨d, []⟩ := by
  rw [loadRegistry, Effects.bind_at, read_works]

theorem validateRelease_at (readable : d.store.Readable reader) (dataset : DatasetKind) (version : String)
    (manifest : DatasetManifest) : validateRelease reader lax dataset version manifest ⟨d, []⟩ =
      validated (validateReleaseDirectory (d.store.releasePath dataset version)
        (d.store.releases.lookup (dataset, version)) manifest) ⟨d, []⟩ := by
  rw [validateRelease, Effects.bind_at, read_works]
  dsimp only
  rw [validateReleaseFiles_eq (readable.found _)]

theorem writeRegistry_at (change : PublicDataStore.Write) (d : Disk) :
    writeRegistry change ⟨d, []⟩ = .ok () ⟨{ d with store := d.store.apply change }, []⟩ := rfl

theorem Disk.rename_holding {name : String} (fresh : d.temporaries.lookup name = none) (directory : ReleaseDirectory)
    (dataset : DatasetKind) (version : String) :
    (d.holding name ⟨directory.records, some directory.manifest⟩).rename name dataset version =
      { d with store := d.store.apply (.install dataset version directory) } := by
  rw [Disk.rename, Disk.temporaryRelease_holding fresh]
  dsimp only
  rw [Disk.remove_holding fresh]
  rfl

variable (lax) in
/-- The commit writes what the store's model says, and gives the manifest it says. -/
theorem commitLocked_ok (fresh : d.temporaries.lookup s.temporary = none) (readable : d.store.Readable reader)
    {directory : ReleaseDirectory} {writes : List PublicDataStore.Write} {manifest : DatasetManifest}
    (done : d.store.commitStaged directory = .ok (writes, manifest)) : ∃ temporaries, ∀ lock,
      commitLocked reader lax s directory.manifest
          ⟨({ d with lock := lock } : Disk).holding s.temporary ⟨directory.records, some directory.manifest⟩, []⟩ =
        .ok manifest ⟨⟨writes.foldl PublicDataStore.apply d.store, temporaries, lock⟩, []⟩ := by
  let held (lock : Option RegistryLock) : Disk :=
    ({ d with lock := lock } : Disk).holding s.temporary ⟨directory.records, some directory.manifest⟩
  have store lock : (held lock).store = d.store := rfl
  have readable' lock : (held lock).store.Readable reader := readable
  simp only [PublicDataStore.commitStaged, bind_ok] at done
  obtain ⟨registry, loaded, done⟩ := done
  split at done
  · rename_i destination there
    simp only [bind_ok] at done
    obtain ⟨_, recoverable, _, complete, done⟩ := done
    refine ⟨(held none).temporaries, fun lock => ?_⟩
    split at done
    · rename_i existing registered
      cases done
      simp only [commitLocked, Effects.bind_at, loadRegistry_at, validateRelease_at (readable' lock), read_works, held,
        store lock, loaded, validated_ok, there, recoverable, complete, registered]
      rfl
    · rename_i unregistered
      cases done
      simp only [commitLocked, Effects.bind_at, loadRegistry_at, validateRelease_at (readable' lock), read_works, held,
        store lock, loaded, validated_ok, there, recoverable, complete, unregistered, writeRegistry_at]
      rfl
  · rename_i absent
    cases done
    refine ⟨d.temporaries, fun lock => ?_⟩
    have renamed := Disk.rename_holding (d := { d with lock := lock }) fresh directory
    simp only [commitLocked, Effects.bind_at, loadRegistry_at, read_works, write_works, held, store lock, loaded,
      validated_ok, absent, writeRegistry_at, touch, renamed]
    rfl

end Commit

/-! ## The whole stage -/

section Stage
variable {reader : PyJson.Reader} {lax : PyJson → Option PyJson} {timings : LockTimings} {d : Disk} {s : Surroundings}
  {adapter : PublicDataAdapter}

theorem writeRecords_ok {name : String} (fresh : d.temporaries.lookup name = none)
    {identities : List (String × String × List (String × String))} {records : List DatasetRecord}
    (distinct : checkIdentities identities records = .ok ()) (written : List DatasetRecord) :
    writeRecords name identities records ⟨d.holding name ⟨written, none⟩, []⟩ =
      .ok () ⟨d.holding name ⟨written ++ records, none⟩, []⟩ := by
  induction records generalizing identities written with
  | nil =>
    rw [List.append_nil]
    rfl
  | cons record rest ih =>
    rw [checkIdentities, bind_ok] at distinct
    obtain ⟨_, new, others⟩ := distinct
    have ran := ih others (written ++ [record])
    simp only [writeRecords, Effects.bind_at, new, validated_ok, write_works, Disk.update_holding fresh, ran,
      List.append_assoc, List.singleton_append]

theorem makeTemporary_works {name : String} (fresh : d.temporaries.lookup name = none) :
    makeTemporary name ⟨d, []⟩ = .ok () ⟨d.holding name {}, []⟩ := by
  simp only [makeTemporary, Effects.bind_at, read_works, fresh]
  rfl

/-- The checks of a stage that succeeds, and its commit. -/
theorem PublicDataStore.stage_cases {store : PublicDataStore} {temporary : String} {now : DateTime}
    {writes : List Write} {manifest : DatasetManifest}
    (done : store.stage adapter temporary now = .ok (writes, manifest)) :
    adapter.release.sourceSha256.isSome = true ∧ checkIdentities [] adapter.records = .ok () ∧
      adapter.records ≠ [] ∧ store.commitStaged (adapter.directory now) = .ok (writes, manifest) := by
  simp only [PublicDataStore.stage_eq, bind_ok, require_ok] at done
  obtain ⟨_, source, _, distinct, _, some_, _, -, committed⟩ := done
  exact ⟨source, distinct, some_, committed⟩

section
variable (lax timings)

/-- The temporary directory is filled, and passes its validation. -/
theorem fillAndCommit_at (fresh : d.temporaries.lookup s.temporary = none)
    (valid : ∀ record ∈ adapter.records, record.Valid reader)
    (distinct : checkIdentities [] adapter.records = .ok ()) (some_ : adapter.records ≠ []) :
    fillAndCommit reader lax timings s adapter ⟨d.holding s.temporary {}, []⟩ =
      commitStaged reader lax timings s (adapter.manifest s.now)
        ⟨d.holding s.temporary ⟨adapter.records, some (adapter.manifest s.now)⟩, []⟩ := by
  have filled := writeRecords_ok fresh distinct []
  rw [List.nil_append] at filled
  have complete : validateReleaseFiles reader lax s.temporary (some ⟨adapter.manifest s.now, adapter.records⟩)
      (adapter.manifest s.now) = .ok () := by
    rw [validateReleaseFiles_eq (by rintro _ ⟨⟩; exact valid)]
    exact adapter.validates s.temporary s.now
  have there := Disk.temporaryRelease_holding fresh adapter.records (adapter.manifest s.now)
  simp only [fillAndCommit, Effects.bind_at, touch, read_works, filled, require, if_pos some_, validated_ok,
    write_works, Disk.update_holding fresh, there, complete]

/-- With the lock to be had, a stage does what the store's model says of it. -/
theorem stage_works (fresh : d.temporaries.lookup s.temporary = none) (readable : d.store.Readable reader)
    (valid : ∀ record ∈ adapter.records, record.Valid reader) (takes : Takes timings d.lock s.first s.rounds)
    {writes : List PublicDataStore.Write} {manifest : DatasetManifest}
    (done : d.store.stage adapter s.temporary s.now = .ok (writes, manifest)) : ∃ temporaries,
      stage reader lax timings s adapter ⟨d, []⟩ =
        .ok manifest ⟨⟨writes.foldl PublicDataStore.apply d.store, temporaries, none⟩, []⟩ := by
  obtain ⟨source, distinct, some_, committed⟩ := PublicDataStore.stage_cases done
  let held := d.holding s.temporary ⟨adapter.records, some (adapter.manifest s.now)⟩
  obtain ⟨temporaries, commit⟩ := commitLocked_ok lax fresh readable committed
  have locking := locked_works (d := held) ⟨writes.foldl PublicDataStore.apply d.store, temporaries, none⟩
    takes fun mtime => commit (some ⟨mtime, some s.token⟩)
  have filled := fillAndCommit_at lax timings fresh valid distinct some_
  rw [commitStaged] at filled
  refine ⟨temporaries, ?_⟩
  simp only [stage, Effects.bind_at, touch, read_works, require, if_pos source, validated_ok, makeTemporary_works fresh]
  exact handled_ok (filled.trans locking)

/-- Without it nothing is staged. -/
theorem stage_timeout (fresh : d.temporaries.lookup s.temporary = none)
    (valid : ∀ record ∈ adapter.records, record.Valid reader) (taken : ¬ Takes timings d.lock s.first s.rounds)
    {writes : List PublicDataStore.Write} {manifest : DatasetManifest}
    (done : d.store.stage adapter s.temporary s.now = .ok (writes, manifest)) : ∃ lock,
      stage reader lax timings s adapter ⟨d, []⟩ =
        .error (.raised .lockTimeout) ⟨{ d with lock := lock }, []⟩ := by
  obtain ⟨source, distinct, some_, -⟩ := PublicDataStore.stage_cases done
  let held := d.holding s.temporary ⟨adapter.records, some (adapter.manifest s.now)⟩
  obtain ⟨lock, timeout⟩ := locked_timeout (d := held)
    (commitLocked reader lax s (adapter.manifest s.now)) taken
  have filled := fillAndCommit_at lax timings fresh valid distinct some_
  rw [commitStaged, timeout] at filled
  refine ⟨lock, ?_⟩
  simp only [stage, Effects.bind_at, touch, read_works, require, if_pos source, validated_ok, makeTemporary_works fresh,
    handled_raised filled]
  have removed : ({ held with lock := lock } : Disk).remove s.temporary = { d with lock := lock } :=
    Disk.remove_holding (d := { d with lock := lock }) fresh _
  rw [removed]

end

end Stage

end RankRent.PublicData
