import RankRent.PublicData.Interrupted

/-!
# Staging again

What a stage leaves wherever it stops, and what staging the same release again, or
another under the same version, makes of it.
-/

namespace RankRent.PublicData
open Checks Interrupts

/-! ## Up to the times -/

def DatasetRelease.timeless (release : DatasetRelease) : DatasetRelease := { release with retrievedAt := 0 }

/-- A manifest without the times of its retrieval and its staging. -/
def DatasetManifest.timeless (manifest : DatasetManifest) : DatasetManifest :=
  { manifest with release := manifest.release.timeless, stagedAt := 0 }

/-- Stores that differ in times of retrieval and staging at most. -/
structure PublicDataStore.Alike (s t : PublicDataStore) : Prop where
  root : s.root = t.root
  active : ∀ dataset, s.active dataset = t.active dataset
  history : ∀ dataset, (s.registry.registration dataset).activationHistory =
    (t.registry.registration dataset).activationHistory
  versions : ∀ dataset version,
    ((s.registry.registration dataset).versions.lookup version).map DatasetManifest.timeless =
      ((t.registry.registration dataset).versions.lookup version).map DatasetManifest.timeless
  directories : ∀ key, (s.releases.lookup key).map (fun directory => (directory.manifest.timeless, directory.records)) =
    (t.releases.lookup key).map fun directory => (directory.manifest.timeless, directory.records)

theorem PublicDataStore.Alike.refl (s : PublicDataStore) : s.Alike s :=
  ⟨rfl, fun _ => rfl, fun _ => rfl, fun _ _ => rfl, fun _ => rfl⟩

theorem validateRecoverableRelease_ok {disk candidate : DatasetManifest} :
    validateRecoverableRelease disk candidate = .ok () ↔ disk.release.timeless = candidate.release.timeless ∧
      disk.contentSha256 = candidate.contentSha256 ∧ disk.recordCount = candidate.recordCount := require_ok

theorem DatasetManifest.timeless_eq {m m' : DatasetManifest} (same : m.timeless = m'.timeless) :
    m.release.timeless = m'.release.timeless ∧ m.contentSha256 = m'.contentSha256 ∧ m.recordCount = m'.recordCount := by
  have release := congrArg DatasetManifest.release same
  have content := congrArg DatasetManifest.contentSha256 same
  have count := congrArg DatasetManifest.recordCount same
  exact ⟨release, content, count⟩

theorem DatasetRelease.timeless_eq {r r' : DatasetRelease} (same : r.timeless = r'.timeless) :
    r.dataset = r'.dataset ∧ r.version = r'.version := by
  have dataset := congrArg DatasetRelease.dataset same
  have version := congrArg DatasetRelease.version same
  exact ⟨dataset, version⟩

/-! ## The commit, once more -/

namespace PublicDataStore
variable {s t : PublicDataStore} {directory directory' destination : ReleaseDirectory} {writes : List Write}
  {manifest : DatasetManifest}

/-- The commit of a release whose directory is there. -/
theorem commit_present (sound : s.Sound) (directory : ReleaseDirectory)
    (there : s.releases.lookup (directory.manifest.release.dataset, directory.manifest.release.version) =
      some destination)
    (recoverable : validateRecoverableRelease destination.manifest directory.manifest = .ok ()) :
    s.commitStaged directory = .ok (match (s.registry.registration directory.manifest.release.dataset).versions.lookup
        directory.manifest.release.version with
      | some existing => ([], existing)
      | none => ([registerStaged destination.manifest s.registry], destination.manifest)) := by
  have complete : validateReleaseDirectory (s.releasePath directory.manifest.release.dataset
      directory.manifest.release.version) (some destination) destination.manifest = .ok () :=
    validate_written (sound.directories _ _ _ there) (.refl _)
  rw [commitStaged, sound.load]
  simp only [Effects.ok_bind, there, recoverable, complete]
  cases (s.registry.registration directory.manifest.release.dataset).versions.lookup
    directory.manifest.release.version <;> rfl

theorem commit_absent (sound : s.Sound) (directory : ReleaseDirectory)
    (absent : s.releases.lookup (directory.manifest.release.dataset, directory.manifest.release.version) = none) :
    s.commitStaged directory = .ok ([.install directory.manifest.release.dataset directory.manifest.release.version
      directory, registerStaged directory.manifest s.registry], directory.manifest) := by
  rw [commitStaged, sound.load]
  simp only [Effects.ok_bind, absent]
  rfl

/-- A commit that succeeds finds its release, or nothing. -/
theorem commit_recoverable (done : s.commitStaged directory = .ok (writes, manifest))
    (there : s.releases.lookup (directory.manifest.release.dataset, directory.manifest.release.version) =
      some destination) :
    validateRecoverableRelease destination.manifest directory.manifest = .ok () := by
  simp only [commitStaged, there, bind_ok] at done
  obtain ⟨_, -, _, recoverable, -⟩ := done
  exact recoverable

theorem registered_registerStaged (s : PublicDataStore) (manifest : DatasetManifest) (registry : PublicDataRegistry) :
    ((s.apply (registerStaged manifest registry)).registry.registration manifest.release.dataset).versions.lookup
      manifest.release.version = some manifest := by
  rw [registerStaged, apply, registration_put, if_pos rfl]
  exact AList.lookup_insert _

theorem unregistered_of_absent (sound : s.Sound) {dataset : DatasetKind} {version : String}
    (absent : s.releases.lookup (dataset, version) = none) :
    (s.registry.registration dataset).versions.lookup version = none := by
  refine Option.eq_none_iff_forall_ne_some.mpr fun manifest known => ?_
  obtain ⟨found, there, -⟩ := sound.installed _ _ manifest known
  rw [absent] at there
  cases there

/-- Two stages of one release into the same store. -/
theorem alike_staged (store : PublicDataStore) (same : directory.manifest.timeless = directory'.manifest.timeless)
    (records : directory.records = directory'.records) :
    ((store.apply (.install directory.manifest.release.dataset directory.manifest.release.version directory)).apply
        (registerStaged directory.manifest store.registry)).Alike
      ((store.apply (.install directory'.manifest.release.dataset directory'.manifest.release.version directory')).apply
        (registerStaged directory'.manifest store.registry)) := by
  obtain ⟨dataset, version⟩ := DatasetRelease.timeless_eq (DatasetManifest.timeless_eq same).1
  rw [registerStaged, registerStaged, ← dataset, ← version]
  constructor
  · rfl
  · intro other
    simp only [active, apply, registration_put]
    split <;> rfl
  · intro other
    simp only [apply, registration_put]
    split <;> rfl
  · intro other version
    simp only [apply, registration_put]
    split
    · by_cases this_ : version = directory.manifest.release.version
      · subst this_
        rw [AList.lookup_insert, AList.lookup_insert, Option.map_some, Option.map_some, same]
      · rw [AList.lookup_insert_ne this_, AList.lookup_insert_ne this_]
    · rfl
  · intro key
    simp only [apply]
    by_cases this_ : key = (directory.manifest.release.dataset, directory.manifest.release.version)
    · subst this_
      rw [AList.lookup_insert, AList.lookup_insert, Option.map_some, Option.map_some, same, records]
    · rw [AList.lookup_insert_ne this_, AList.lookup_insert_ne this_]

/-- After any of its writes a commit can be made again, and leaves what it would have left. -/
theorem commit_again (sound : s.Sound) (directory' : ReleaseDirectory)
    (written : directory.Written directory.manifest.release.dataset directory.manifest.release.version)
    (same : directory.manifest.timeless = directory'.manifest.timeless) (records : directory.records = directory'.records)
    (done : s.commitStaged directory = .ok (writes, manifest)) (k : Nat) : ∃ writes' manifest',
      ((writes.take k).foldl apply s).commitStaged directory' = .ok (writes', manifest') ∧
        (writes.foldl apply s).Alike (writes'.foldl apply ((writes.take k).foldl apply s)) := by
  obtain ⟨release, content, count⟩ := DatasetManifest.timeless_eq same
  obtain ⟨dataset, version⟩ := DatasetRelease.timeless_eq release
  -- a directory of this release that is there, and its registration
  have again {t : PublicDataStore} {destination : ReleaseDirectory} (sound : t.Sound)
      (there : t.releases.lookup (directory.manifest.release.dataset, directory.manifest.release.version) =
        some destination)
      (recoverable : validateRecoverableRelease destination.manifest directory.manifest = .ok ()) :=
    commit_present sound directory' (by rw [← dataset, ← version]; exact there) (by
      rw [validateRecoverableRelease_ok] at recoverable ⊢
      rw [← release, ← content, ← count]
      exact recoverable)
  rw [← dataset, ← version] at again
  have later := (sound.commitStaged written done k).1
  cases there : s.releases.lookup (directory.manifest.release.dataset, directory.manifest.release.version) with
  | some destination =>
    have recoverable := commit_recoverable done there
    have kept := validateRecoverableRelease_ok.mp recoverable
    obtain ⟨dataset', version'⟩ := DatasetRelease.timeless_eq kept.1
    rw [commit_present sound _ there recoverable] at done
    split at done
    · rename_i registered
      cases done
      rw [List.take_nil]
      refine ⟨[], manifest, ?_, .refl _⟩
      rw [List.foldl_nil, again sound there recoverable, registered]
    · rename_i unregistered
      cases done
      cases k with
      | zero =>
        refine ⟨[registerStaged destination.manifest s.registry], destination.manifest, ?_, .refl _⟩
        rw [List.take_zero, List.foldl_nil, again sound there recoverable, unregistered]
      | succ k =>
        rw [List.take_succ_cons, List.take_nil] at later ⊢
        refine ⟨[], destination.manifest, ?_, .refl _⟩
        rw [again later there recoverable, ← dataset', ← version', List.foldl_cons, List.foldl_nil,
          registered_registerStaged]
  | none =>
    rw [commit_absent sound _ there] at done
    cases done
    have recoverable : validateRecoverableRelease directory.manifest directory.manifest = .ok () :=
      validateRecoverableRelease_ok.mpr ⟨rfl, rfl, rfl⟩
    match k with
    | 0 =>
      refine ⟨_, _, commit_absent sound directory' (by rw [← dataset, ← version]; exact there), ?_⟩
      exact alike_staged s same records
    | 1 =>
      rw [List.take_succ_cons, List.take_zero] at later ⊢
      simp only [List.foldl_cons, List.foldl_nil] at later ⊢
      have unregistered := unregistered_of_absent sound there
      refine ⟨[registerStaged directory.manifest s.registry], directory.manifest, ?_, .refl _⟩
      rw [again later (AList.lookup_insert _) recoverable]
      simp only [apply, unregistered]
    | k + 2 =>
      rw [List.take_succ_cons, List.take_succ_cons, List.take_nil] at later ⊢
      simp only [List.foldl_cons, List.foldl_nil] at later ⊢
      refine ⟨[], directory.manifest, ?_, .refl _⟩
      rw [again later (AList.lookup_insert _) recoverable, registered_registerStaged]

end PublicDataStore

/-! ## The stage, once more -/

/-- The same release, retrieved at another time. -/
def PublicDataAdapter.retrieved (adapter : PublicDataAdapter) (retrievedAt : DateTime) : PublicDataAdapter :=
  { adapter with release := { adapter.release with retrievedAt } }

theorem PublicDataAdapter.written (adapter : PublicDataAdapter) (now : DateTime) :
    (adapter.directory now).Written adapter.release.dataset adapter.release.version := by
  constructor <;> rfl

namespace PublicDataStore
variable {s : PublicDataStore} {adapter : PublicDataAdapter} {temporary : String} {now : DateTime}
  {writes : List Write} {manifest : DatasetManifest}

theorem stage_again (sound : s.Sound) (done : s.stage adapter temporary now = .ok (writes, manifest)) (k : Nat)
    (temporary' : String) (now' retrievedAt : DateTime) :
    ∃ writes' manifest', (s.attempt ⟨.stage adapter temporary, now, k⟩).stage (adapter.retrieved retrievedAt)
        temporary' now' = .ok (writes', manifest') ∧
      (writes.foldl apply s).Alike (writes'.foldl apply (s.attempt ⟨.stage adapter temporary, now, k⟩)) := by
  obtain ⟨source, distinct, some_, committed⟩ := stage_cases done
  have performed : s.perform now (.stage adapter temporary) = .ok (writes, manifest) := done
  rw [attempt_ok performed, (adapter.retrieved retrievedAt).stage_ok source distinct some_]
  exact commit_again sound ((adapter.retrieved retrievedAt).directory now') (adapter.written now) rfl rfl committed k

/-- A release that is staged is there, under its version and with its content. -/
theorem stage_installed (sound : s.Sound) (done : s.stage adapter temporary now = .ok (writes, manifest)) :
    ∃ directory, (writes.foldl apply s).releases.lookup (adapter.release.dataset, adapter.release.version) =
        some directory ∧
      directory.manifest.release.timeless = adapter.release.timeless ∧
      digest directory.records = digest adapter.records := by
  obtain ⟨-, -, -, committed⟩ := stage_cases done
  cases there : s.releases.lookup (adapter.release.dataset, adapter.release.version) with
  | some destination =>
    have recoverable := commit_recoverable committed there
    obtain ⟨release, content, -⟩ := validateRecoverableRelease_ok.mp recoverable
    rw [commit_present sound _ there recoverable] at committed
    refine ⟨destination, ?_, release, (sound.directories _ _ _ there).content.trans content⟩
    split at committed
    · cases committed
      exact there
    · cases committed
      exact there
  | none =>
    rw [commit_absent sound _ there] at committed
    cases committed
    exact ⟨adapter.directory now, AList.lookup_insert _, rfl, rfl⟩

/-- A stage under a registered version has the registered release and content. -/
theorem stage_registered (sound : s.Sound) (done : s.stage adapter temporary now = .ok (writes, manifest))
    {registered : DatasetManifest} {directory : ReleaseDirectory}
    (known : (s.registry.registration adapter.release.dataset).versions.lookup adapter.release.version = some registered)
    (there : s.releases.lookup (adapter.release.dataset, adapter.release.version) = some directory) :
    registered.release.timeless = adapter.release.timeless ∧ digest directory.records = digest adapter.records := by
  obtain ⟨-, -, -, committed⟩ := stage_cases done
  obtain ⟨release, content, -⟩ := validateRecoverableRelease_ok.mp (commit_recoverable committed there)
  obtain ⟨found, there', same⟩ := sound.installed _ _ registered known
  rw [there] at there'
  cases there'
  constructor
  · rw [same.release]
    exact release
  · exact (sound.directories _ _ _ there).content.trans content

theorem releases_register (s : PublicDataStore) (registry : PublicDataRegistry) (k : Nat) :
    (([.register registry].take k).foldl apply s).releases = s.releases := by
  cases k with
  | zero => rfl
  | succ k =>
    rw [List.take_succ_cons, List.take_nil]
    rfl

/-- Release directories are written once. -/
theorem attempt_releases (sound : s.Sound) (call : Attempt) : (s.attempt call).releases = s.releases ∨
    ∃ adapter temporary, call.operation = .stage adapter temporary ∧
      s.releases.lookup (adapter.release.dataset, adapter.release.version) = none ∧
        (s.attempt call).releases =
          s.releases.insert (adapter.release.dataset, adapter.release.version) (adapter.directory call.now) := by
  obtain ⟨operation, now, k⟩ := call
  cases performed : s.perform now operation with
  | error e =>
    rw [attempt, performed]
    exact Or.inl rfl
  | ok result =>
    obtain ⟨writes, manifest⟩ := result
    rw [attempt_ok performed]
    have activated {dataset : DatasetKind} {version : String}
        (done : s.activateLocked s.registry dataset version now = .ok (writes, manifest)) :
        ((writes.take k).foldl apply s).releases = s.releases := by
      obtain ⟨old, -, ⟨-, rfl⟩ | ⟨-, versions, -, rfl⟩⟩ := activateLocked_ok sound done
      · rw [List.take_nil]
        rfl
      · exact releases_register s _ k
    cases operation with
    | stage adapter temporary =>
      obtain ⟨-, -, -, committed⟩ := stage_cases performed
      cases there : s.releases.lookup (adapter.release.dataset, adapter.release.version) with
      | some destination =>
        refine Or.inl ?_
        rw [commit_present sound _ there (commit_recoverable committed there)] at committed
        split at committed
        · cases committed
          rw [List.take_nil]
          rfl
        · cases committed
          exact releases_register s _ k
      | none =>
        rw [commit_absent sound _ there] at committed
        cases committed
        rcases k with _ | _ | k
        · exact Or.inl rfl
        · exact Or.inr ⟨adapter, temporary, rfl, there, by simp; rfl⟩
        · exact Or.inr ⟨adapter, temporary, rfl, there, by simp; rfl⟩
    | activate dataset version =>
      simp only [perform, activate, sound.load, bind_ok] at performed
      obtain ⟨registry, loaded, done⟩ := performed
      cases loaded
      exact Or.inl (activated done)
    | rollback dataset =>
      simp only [perform, rollback, sound.load, bind_ok] at performed
      obtain ⟨registry, loaded, done⟩ := performed
      cases loaded
      split at done
      · cases done
      · exact Or.inl (activated done)

end PublicDataStore

end RankRent.PublicData
