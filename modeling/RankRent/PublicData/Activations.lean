import RankRent.PublicData.Registry
import RankRent.Library.Runs

/-!
# Activations

What the registry says of its versions in every run of stages, activations and
rollbacks: the history ends with the active version, and the statuses follow
the history.
-/

namespace RankRent.PublicData
open Checks

/-! ## What is to hold -/

/-- The status the history gives a version. -/
def DatasetRegistration.statusOf (registration : DatasetRegistration) (version : String) : DatasetStatus :=
  if registration.activeVersion = some version then .active
  else if version ∈ registration.activationHistory then .superseded
  else .staged

structure DatasetRegistration.Sound (registration : DatasetRegistration) : Prop where
  distinct : registration.activationHistory.Nodup
  registered : ∀ version ∈ registration.activationHistory, version ∈ registration.versions
  last : registration.activationHistory.getLast? = registration.activeVersion
  status : ∀ version manifest, registration.versions.lookup version = some manifest →
    manifest.status = registration.statusOf version

/-- The parts of a manifest that are fixed when it is registered. -/
structure SameRelease (manifest later : DatasetManifest) : Prop where
  release : later.release = manifest.release
  content : later.contentSha256 = manifest.contentSha256
  count : later.recordCount = manifest.recordCount

/-- Registered versions stay, with their release and their content. -/
def DatasetRegistration.Keeps (registration later : DatasetRegistration) : Prop :=
  ∀ version manifest, registration.versions.lookup version = some manifest →
    ∃ kept, later.versions.lookup version = some kept ∧ SameRelease manifest kept

def PublicDataStore.active (s : PublicDataStore) (dataset : DatasetKind) : Option String :=
  (s.registry.registration dataset).activeVersion

/-- A rollback after an activation goes back to what was active before. -/
def PublicDataStore.Restores (s : PublicDataStore) : Prop :=
  ∀ dataset version previous now writes now', s.active dataset = some previous →
    (s.attempt ⟨.activate dataset version, now, writes⟩).active dataset ≠ some previous →
      ∃ changes manifest, (s.attempt ⟨.activate dataset version, now, writes⟩).rollback dataset now' =
          .ok (changes, manifest) ∧
        ((s.attempt ⟨.activate dataset version, now, writes⟩).attempt
          ⟨.rollback dataset, now', changes.length⟩).active dataset = some previous

/-! ## One registration -/

namespace SameRelease
variable {a b c : DatasetManifest}

theorem refl (a : DatasetManifest) : SameRelease a a := ⟨rfl, rfl, rfl⟩

theorem trans (first : SameRelease a b) (second : SameRelease b c) : SameRelease a c :=
  ⟨second.release.trans first.release, second.content.trans first.content,
    second.count.trans first.count⟩

end SameRelease

section Registration
variable {r : DatasetRegistration} {version : String} {manifest : DatasetManifest}

theorem DatasetRegistration.Keeps.refl (r : DatasetRegistration) : r.Keeps r :=
  fun _ manifest found => ⟨manifest, found, .refl manifest⟩

theorem DatasetRegistration.Keeps.trans {r' r'' : DatasetRegistration} (first : r.Keeps r')
    (second : r'.Keeps r'') : r.Keeps r'' := by
  intro version manifest found
  obtain ⟨kept, found, same⟩ := first version manifest found
  obtain ⟨later, found, same'⟩ := second version kept found
  exact ⟨later, found, same.trans same'⟩

theorem DatasetRegistration.sound_empty : ({} : DatasetRegistration).Sound := by
  constructor <;> simp

theorem DatasetRegistration.Sound.valid (sound : r.Sound) : r.Valid := by
  refine ⟨fun version active => sound.registered version ?_, sound.registered⟩
  rw [← sound.last] at active
  exact List.mem_of_getLast? active

/-- A version that is staged anew. -/
theorem DatasetRegistration.Sound.stage (sound : r.Sound) (new : r.versions.lookup version = none)
    (staged : manifest.status = .staged) :
    ({ r with versions := r.versions.insert version manifest } : DatasetRegistration).Sound := by
  have absent : version ∉ r.activationHistory := by
    intro member
    exact AList.lookup_eq_none.mp new (sound.registered version member)
  constructor
  · exact sound.distinct
  · intro other member
    exact (AList.mem_insert _).mpr (Or.inr (sound.registered other member))
  · exact sound.last
  · intro other found there
    by_cases same : other = version
    · subst same
      rw [AList.lookup_insert] at there
      cases there
      have inactive : r.activeVersion ≠ some other := by
        rw [← sound.last]
        exact fun last => absent (List.mem_of_getLast? last)
      rw [staged, statusOf, if_neg inactive, if_neg absent]
    · rw [AList.lookup_insert_ne same] at there
      exact sound.status other found there

theorem DatasetRegistration.keeps_insert (new : r.versions.lookup version = none) :
    r.Keeps { r with versions := r.versions.insert version manifest } := by
  intro other found there
  refine ⟨found, ?_, .refl found⟩
  have differs : other ≠ version := by
    rintro rfl
    rw [new] at there
    cases there
  rw [AList.lookup_insert_ne differs]
  exact there

/-- The version that was active is superseded, and nothing else changes. -/
theorem supersede_ok {versions : Dict String DatasetManifest}
    (done : PublicDataStore.supersede r = .ok versions) (other : String) :
    versions.lookup other = (r.versions.lookup other).map fun manifest =>
      if r.activeVersion = some other then { manifest with status := .superseded } else manifest := by
  rw [PublicDataStore.supersede] at done
  split at done
  · rename_i none
    cases done
    simp [none]
  · rename_i previous active
    simp only [bind_ok, found_ok, pure_ok] at done
    obtain ⟨manifest, found, rfl⟩ := done
    by_cases same : other = previous
    · subst same
      rw [AList.lookup_insert, found]
      simp [active]
    · rw [AList.lookup_insert_ne same]
      have differs : ¬ previous = other := fun eq => same eq.symm
      simp [active, differs]

/-- The registration after an activation. -/
def DatasetRegistration.activated (r : DatasetRegistration) (version : String)
    (versions : Dict String DatasetManifest) (manifest : DatasetManifest) : DatasetRegistration where
  activeVersion := some version
  activationHistory := (r.activationHistory.filter (· ≠ version)) ++ [version]
  versions := versions.insert version manifest

theorem DatasetRegistration.Sound.activate (sound : r.Sound) {versions : Dict String DatasetManifest}
    (known : version ∈ r.versions) (superseded : PublicDataStore.supersede r = .ok versions)
    (active : manifest.status = .active) : (r.activated version versions manifest).Sound := by
  have lookup := supersede_ok superseded
  constructor
  · refine List.nodup_append.mpr ⟨sound.distinct.filter _, List.nodup_singleton _, ?_⟩
    rintro a member b last rfl
    rw [List.mem_singleton] at last
    subst last
    simp at member
  · intro other member
    refine (AList.mem_insert _).mpr ?_
    by_cases same : other = version
    · exact Or.inl same
    · refine Or.inr (AList.lookup_isSome.mp ?_)
      rw [lookup, Option.isSome_map]
      refine AList.lookup_isSome.mpr ?_
      rw [activated, List.mem_append, List.mem_filter, List.mem_singleton] at member
      obtain ⟨inside, -⟩ | last := member
      · exact sound.registered other inside
      · exact absurd last same
  · simp [activated]
  · intro other found there
    by_cases same : other = version
    · subst same
      rw [activated, AList.lookup_insert] at there
      cases there
      simp [statusOf, activated, active]
    · have apart : ¬ version = other := fun eq => same eq.symm
      rw [activated, AList.lookup_insert_ne same, lookup] at there
      obtain ⟨old, before, rfl⟩ := Option.map_eq_some_iff.mp there
      have status := sound.status other old before
      by_cases was : r.activeVersion = some other
      · -- it was active, so it is in the history
        have inside : other ∈ r.activationHistory := by
          rw [← sound.last] at was
          exact List.mem_of_getLast? was
        simp [was, statusOf, activated, apart, inside, same]
      · rw [statusOf, if_neg was] at status
        simp [was, statusOf, activated, apart, same, status]

theorem DatasetRegistration.keeps_activated {versions : Dict String DatasetManifest}
    {old : DatasetManifest} (known : r.versions.lookup version = some old)
    (superseded : PublicDataStore.supersede r = .ok versions) (same : SameRelease old manifest) :
    r.Keeps (r.activated version versions manifest) := by
  intro other found there
  by_cases one : other = version
  · subst one
    rw [known] at there
    cases there
    exact ⟨manifest, AList.lookup_insert _, same⟩
  · rw [activated, AList.lookup_insert_ne one, supersede_ok superseded, there, Option.map_some]
    refine ⟨_, rfl, ?_⟩
    split <;> exact ⟨rfl, rfl, rfl⟩

end Registration

/-! ## The store -/

/-- What a release directory was written with. -/
structure ReleaseDirectory.Written (directory : ReleaseDirectory) (dataset : DatasetKind)
    (version : String) : Prop where
  dataset : directory.manifest.release.dataset = dataset
  version : directory.manifest.release.version = version
  staged : directory.manifest.status = .staged
  content : digest directory.records = directory.manifest.contentSha256
  count : directory.records.length = directory.manifest.recordCount

structure PublicDataStore.Sound (s : PublicDataStore) : Prop where
  registrations : ∀ dataset, (s.registry.registration dataset).Sound
  directories : ∀ dataset version directory, s.releases.lookup (dataset, version) = some directory →
    directory.Written dataset version
  installed : ∀ dataset version manifest,
    (s.registry.registration dataset).versions.lookup version = some manifest →
      ∃ directory, s.releases.lookup (dataset, version) = some directory ∧
        SameRelease directory.manifest manifest

@[simp] theorem registration_put (registry : PublicDataRegistry) (dataset other : DatasetKind)
    (registration : DatasetRegistration) :
    (registry.put dataset registration).registration other =
      if other = dataset then registration else registry.registration other := by
  rw [PublicDataRegistry.registration, PublicDataRegistry.put]
  by_cases same : other = dataset
  · subst same
    rw [AList.lookup_insert, if_pos rfl, Option.getD_some]
  · rw [AList.lookup_insert_ne same, if_neg same, PublicDataRegistry.registration]

namespace PublicDataStore
variable {s t : PublicDataStore} {dataset : DatasetKind} {version path : String}
  {manifest : DatasetManifest} {directory : ReleaseDirectory} {writes : List Write} {now : DateTime}

theorem Sound.load (sound : s.Sound) : s.loadRegistry = .ok s.registry := by
  have valid : ∀ entry ∈ s.registry.datasets.entries, entry.2.Valid := by
    rintro ⟨dataset, registration⟩ member
    have found : s.registry.datasets.lookup dataset = some registration :=
      AList.mem_lookup_iff.mpr member
    have registered := sound.registrations dataset
    rw [PublicDataRegistry.registration, found, Option.getD_some] at registered
    exact registered.valid
  simp only [loadRegistry, bind_ok, require_ok, pure_ok]
  exact ⟨(), valid, trivial⟩

theorem validate_written (written : directory.Written dataset version)
    (same : SameRelease directory.manifest manifest) :
    validateReleaseDirectory path (some directory) manifest = .ok () := by
  simp only [validateReleaseDirectory, bind_ok, found_ok, require_ok]
  refine ⟨directory, rfl, (), ?_, (), ?_, (), ?_, (), ?_, (), ?_, (), ?_, ?_⟩
  · rw [same.release]
  · rw [same.release]
  · rw [same.release]
  · rw [same.content]
  · rw [same.count]
  · rw [same.content, written.content]
  · rw [same.count, written.count]

/-- What is registered is installed, so it validates. -/
theorem Sound.validate_ok (sound : s.Sound) :
    s.validateRegistered s.registry dataset version = .ok manifest ↔
      (s.registry.registration dataset).versions.lookup version = some manifest := by
  simp only [validateRegistered, bind_ok, found_ok, pure_ok]
  constructor
  · rintro ⟨found, known, -, -, rfl⟩
    exact known
  · intro known
    obtain ⟨directory, there, same⟩ := sound.installed dataset version manifest known
    refine ⟨manifest, known, (), ?_, rfl⟩
    rw [there]
    exact validate_written (sound.directories dataset version directory there) same

/-! ## What the operations write -/

theorem activateLocked_ok (sound : s.Sound)
    (done : s.activateLocked s.registry dataset version now = .ok (writes, manifest)) :
    ∃ old, (s.registry.registration dataset).versions.lookup version = some old ∧
      (s.active dataset = some version ∧ writes = [] ∨
        s.active dataset ≠ some version ∧ ∃ versions,
          supersede (s.registry.registration dataset) = .ok versions ∧
            writes = [.register (s.registry.put dataset
              ((s.registry.registration dataset).activated version versions
                { old with status := .active, activatedAt := some now }))]) := by
  simp only [activateLocked, bind_ok, sound.validate_ok] at done
  obtain ⟨old, known, done⟩ := done
  refine ⟨old, known, ?_⟩
  split at done
  · rename_i already
    cases done
    exact Or.inl ⟨already, rfl⟩
  · rename_i differs
    simp only [bind_ok, pure_ok] at done
    obtain ⟨versions, superseded, done⟩ := done
    cases done
    exact Or.inr ⟨differs, versions, superseded, rfl⟩

/-- The writes of a stage: a directory where there was none, and the
registration of what is in the directory. -/
theorem commitStaged_ok (sound : s.Sound)
    (done : s.commitStaged directory = .ok (writes, manifest)) :
    writes = [] ∨
      (∃ installed, s.releases.lookup (installed.manifest.release.dataset,
          installed.manifest.release.version) = some installed ∧
        (s.registry.registration installed.manifest.release.dataset).versions.lookup
          installed.manifest.release.version = none ∧
        writes = [registerStaged installed.manifest s.registry]) ∨
      s.releases.lookup (directory.manifest.release.dataset,
          directory.manifest.release.version) = none ∧
        writes = [.install directory.manifest.release.dataset directory.manifest.release.version directory,
          registerStaged directory.manifest s.registry] := by
  simp only [commitStaged, sound.load, bind_ok] at done
  obtain ⟨registry, loaded, done⟩ := done
  cases loaded
  split at done
  · rename_i installed there
    simp only [bind_ok, validateRecoverableRelease, require_ok] at done
    obtain ⟨_, ⟨release, _⟩, _, _, done⟩ := done
    have dataset := congrArg DatasetRelease.dataset release
    have version := congrArg DatasetRelease.version release
    simp only at dataset version
    rw [← dataset, ← version] at there done
    split at done
    · cases done
      exact Or.inl rfl
    · rename_i unregistered
      cases done
      exact Or.inr (Or.inl ⟨installed, there, unregistered, rfl⟩)
  · rename_i absent
    cases done
    exact Or.inr (Or.inr ⟨absent, rfl⟩)

theorem stage_ok {adapter : PublicDataAdapter} {temporary : String}
    (done : s.stage adapter temporary now = .ok (writes, manifest)) :
    ∃ directory : ReleaseDirectory, directory.Written directory.manifest.release.dataset
        directory.manifest.release.version ∧
      s.commitStaged directory = .ok (writes, manifest) := by
  simp only [stage, bind_ok, require_ok, writeValidatedRecords, pure_ok] at done
  obtain ⟨_, _, counted, ⟨_, _, _, _, rfl⟩, _, _, done⟩ := done
  refine ⟨_, ?_, done⟩
  constructor <;> rfl

/-- A version that is registered and not active is activated. -/
theorem activateLocked_succeeds (sound : s.Sound) {old : DatasetManifest}
    (known : (s.registry.registration dataset).versions.lookup version = some old)
    (differs : s.active dataset ≠ some version) (now : DateTime) : ∃ versions,
      s.activateLocked s.registry dataset version now =
        .ok ([.register (s.registry.put dataset ((s.registry.registration dataset).activated version
            versions { old with status := .active, activatedAt := some now }))],
          { old with status := .active, activatedAt := some now }) := by
  obtain ⟨versions, superseded⟩ :
      ∃ versions, supersede (s.registry.registration dataset) = .ok versions := by
    rw [supersede]
    split
    · exact ⟨_, rfl⟩
    · rename_i previous active
      obtain ⟨manifest, found⟩ := Option.isSome_iff_exists.mp
        (AList.lookup_isSome.mpr ((sound.registrations dataset).valid.1 previous active))
      exact ⟨_, by rw [found]; rfl⟩
  refine ⟨versions, ?_⟩
  have inactive : (s.registry.registration dataset).activeVersion ≠ some version := differs
  simp only [activateLocked, bind_ok, sound.validate_ok]
  refine ⟨old, known, ?_⟩
  rw [if_neg inactive]
  simp only [bind_ok, pure_ok]
  exact ⟨versions, superseded, rfl⟩

/-! ## Steps -/

/-- No dataset loses a version. -/
def Keeps (s t : PublicDataStore) : Prop :=
  ∀ dataset, (s.registry.registration dataset).Keeps (t.registry.registration dataset)

theorem Keeps.refl (s : PublicDataStore) : s.Keeps s := fun _ => .refl _

theorem Keeps.trans {u : PublicDataStore} (first : s.Keeps t) (second : t.Keeps u) : s.Keeps u :=
  fun dataset => (first dataset).trans (second dataset)

theorem Sound.install (sound : s.Sound) (written : directory.Written dataset version)
    (absent : s.releases.lookup (dataset, version) = none) :
    (s.apply (.install dataset version directory)).Sound := by
  refine ⟨sound.registrations, fun dataset' version' found there => ?_, fun dataset' version' m known => ?_⟩
  · by_cases same : (dataset', version') = (dataset, version)
    · obtain ⟨rfl, rfl⟩ := Prod.mk.inj same
      rw [apply, AList.lookup_insert] at there
      cases there
      exact written
    · rw [apply, AList.lookup_insert_ne same] at there
      exact sound.directories dataset' version' found there
  · obtain ⟨found, there, release⟩ := sound.installed dataset' version' m known
    refine ⟨found, ?_, release⟩
    have differs : (dataset', version') ≠ (dataset, version) := by
      intro same
      rw [same, absent] at there
      cases there
    rw [apply, AList.lookup_insert_ne differs]
    exact there

/-- A registration that keeps its versions, and registers only what is installed. -/
theorem Sound.register (sound : s.Sound) {registration : DatasetRegistration} (sound' : registration.Sound)
    (installed : ∀ version manifest, registration.versions.lookup version = some manifest →
      ∃ directory, s.releases.lookup (dataset, version) = some directory ∧
        SameRelease directory.manifest manifest) :
    (s.apply (.register (s.registry.put dataset registration))).Sound := by
  refine ⟨fun other => ?_, sound.directories, fun other version manifest known => ?_⟩
  · rw [apply, registration_put]
    split
    · exact sound'
    · exact sound.registrations other
  · rw [apply, registration_put] at known
    split at known
    · rename_i same
      subst same
      exact installed version manifest known
    · exact sound.installed other version manifest known

theorem keeps_register {registration : DatasetRegistration}
    (keeps : (s.registry.registration dataset).Keeps registration) :
    s.Keeps (s.apply (.register (s.registry.put dataset registration))) := by
  intro other
  rw [apply, registration_put]
  split
  · rename_i same
    exact same ▸ keeps
  · exact .refl _

theorem Sound.register_staged (sound : s.Sound)
    (there : s.releases.lookup (directory.manifest.release.dataset,
      directory.manifest.release.version) = some directory)
    (new : (s.registry.registration directory.manifest.release.dataset).versions.lookup
      directory.manifest.release.version = none) :
    (s.apply (registerStaged directory.manifest s.registry)).Sound ∧
      s.Keeps (s.apply (registerStaged directory.manifest s.registry)) := by
  have staged := (sound.directories _ _ directory there).staged
  refine ⟨sound.register ((sound.registrations _).stage new staged) fun version manifest known => ?_,
    keeps_register (DatasetRegistration.keeps_insert new)⟩
  by_cases same : version = directory.manifest.release.version
  · subst same
    rw [AList.lookup_insert] at known
    cases known
    exact ⟨directory, there, .refl _⟩
  · rw [AList.lookup_insert_ne same] at known
    exact sound.installed _ version manifest known

theorem Sound.register_activated (sound : s.Sound) {old : DatasetManifest}
    {versions : Dict String DatasetManifest}
    (known : (s.registry.registration dataset).versions.lookup version = some old)
    (superseded : supersede (s.registry.registration dataset) = .ok versions)
    (active : manifest.status = .active) (same : SameRelease old manifest) :
    (s.apply (.register (s.registry.put dataset
        ((s.registry.registration dataset).activated version versions manifest)))).Sound ∧
      s.Keeps (s.apply (.register (s.registry.put dataset
        ((s.registry.registration dataset).activated version versions manifest)))) := by
  have there : version ∈ (s.registry.registration dataset).versions :=
    AList.lookup_isSome.mp (by rw [known]; rfl)
  refine ⟨sound.register ((sound.registrations dataset).activate there superseded active)
    fun other found registered => ?_,
    keeps_register (DatasetRegistration.keeps_activated known superseded same)⟩
  by_cases one : other = version
  · subst one
    rw [DatasetRegistration.activated, AList.lookup_insert] at registered
    cases registered
    obtain ⟨directory, there, release⟩ := sound.installed dataset other old known
    exact ⟨directory, there, release.trans same⟩
  · rw [DatasetRegistration.activated, AList.lookup_insert_ne one, supersede_ok superseded] at registered
    obtain ⟨before, was, rfl⟩ := Option.map_eq_some_iff.mp registered
    obtain ⟨directory, there, release⟩ := sound.installed dataset other before was
    refine ⟨directory, there, release.trans ?_⟩
    split <;> exact ⟨rfl, rfl, rfl⟩

theorem Sound.activateLocked (sound : s.Sound)
    (done : s.activateLocked s.registry dataset version now = .ok (writes, manifest)) (k : Nat) :
    ((writes.take k).foldl apply s).Sound ∧ s.Keeps ((writes.take k).foldl apply s) := by
  obtain ⟨old, known, ⟨-, rfl⟩ | ⟨-, versions, superseded, rfl⟩⟩ := activateLocked_ok sound done
  · rw [List.take_nil]
    exact ⟨sound, .refl s⟩
  · cases k with
    | zero => exact ⟨sound, .refl s⟩
    | succ k =>
      rw [List.take_succ_cons, List.take_nil]
      exact sound.register_activated known superseded rfl ⟨rfl, rfl, rfl⟩

theorem Sound.commitStaged (sound : s.Sound) (written : directory.Written
      directory.manifest.release.dataset directory.manifest.release.version)
    (done : s.commitStaged directory = .ok (writes, manifest)) (k : Nat) :
    ((writes.take k).foldl apply s).Sound ∧ s.Keeps ((writes.take k).foldl apply s) := by
  obtain rfl | ⟨installed, there, new, rfl⟩ | ⟨absent, rfl⟩ := commitStaged_ok sound done
  · rw [List.take_nil]
    exact ⟨sound, .refl s⟩
  · cases k with
    | zero => exact ⟨sound, .refl s⟩
    | succ k =>
      rw [List.take_succ_cons, List.take_nil]
      exact sound.register_staged there new
  · have placed := sound.install written absent
    match k with
    | 0 => exact ⟨sound, .refl s⟩
    | 1 => exact ⟨placed, .refl s⟩
    | k + 2 =>
      rw [List.take_succ_cons, List.take_succ_cons, List.take_nil]
      refine placed.register_staged (AList.lookup_insert _) ?_
      -- what is registered is installed
      refine Option.eq_none_iff_forall_ne_some.mpr fun manifest known => ?_
      obtain ⟨found, there, -⟩ := sound.installed _ _ manifest known
      rw [absent] at there
      cases there

theorem attempt_ok {operation : Operation} (performed : s.perform now operation = .ok (writes, manifest))
    (k : Nat) : s.attempt ⟨operation, now, k⟩ = (writes.take k).foldl apply s := by
  rw [attempt, performed]

theorem Sound.attempt (sound : s.Sound) (call : Attempt) :
    (s.attempt call).Sound ∧ s.Keeps (s.attempt call) := by
  obtain ⟨operation, now, k⟩ := call
  cases performed : s.perform now operation with
  | error e =>
    rw [PublicDataStore.attempt, performed]
    exact ⟨sound, .refl s⟩
  | ok result =>
    obtain ⟨writes, manifest⟩ := result
    rw [attempt_ok performed]
    cases operation with
    | stage adapter temporary =>
      obtain ⟨directory, written, done⟩ := stage_ok performed
      exact sound.commitStaged written done k
    | activate dataset version =>
      simp only [perform, activate, sound.load, bind_ok] at performed
      obtain ⟨registry, loaded, done⟩ := performed
      cases loaded
      exact sound.activateLocked done k
    | rollback dataset =>
      simp only [perform, rollback, sound.load, bind_ok] at performed
      obtain ⟨registry, loaded, done⟩ := performed
      cases loaded
      split at done
      · cases done
      · exact sound.activateLocked done k

/-! ## Rollback -/

theorem attempt_activate (sound : s.Sound) {k : Nat}
    (changed : (s.attempt ⟨.activate dataset version, now, k⟩).active dataset ≠ s.active dataset) :
    s.active dataset ≠ some version ∧ ∃ old versions,
      (s.registry.registration dataset).versions.lookup version = some old ∧
      supersede (s.registry.registration dataset) = .ok versions ∧
      s.attempt ⟨.activate dataset version, now, k⟩ = s.apply (.register (s.registry.put dataset
        ((s.registry.registration dataset).activated version versions
          { old with status := .active, activatedAt := some now }))) := by
  cases performed : s.perform now (.activate dataset version) with
  | error e =>
    rw [PublicDataStore.attempt, performed] at changed
    exact absurd rfl changed
  | ok result =>
    obtain ⟨writes, manifest⟩ := result
    have done := performed
    simp only [perform, activate, sound.load, bind_ok] at done
    obtain ⟨registry, loaded, done⟩ := done
    cases loaded
    rw [attempt_ok performed] at changed ⊢
    obtain ⟨old, known, ⟨-, rfl⟩ | ⟨differs, versions, superseded, rfl⟩⟩ := activateLocked_ok sound done
    · rw [List.take_nil] at changed
      exact absurd rfl changed
    · cases k with
      | zero => exact absurd rfl changed
      | succ k =>
        rw [List.take_succ_cons, List.take_nil]
        exact ⟨differs, old, versions, known, superseded, rfl⟩

theorem rollback_eq (sound : s.Sound)
    (last : ((s.registry.registration dataset).activationHistory.reverse.filter
      fun version => some version ≠ (s.registry.registration dataset).activeVersion).head? = some version) :
    s.rollback dataset now = s.activateLocked s.registry dataset version now := by
  obtain ⟨rest, listed⟩ := List.head?_eq_some_iff.mp last
  rw [rollback, sound.load]
  simp only [bind, Except.bind, listed]

theorem Sound.restores (sound : s.Sound) : s.Restores := by
  intro dataset version previous now k now' active changed
  obtain ⟨differs, old, versions, known, superseded, attempted⟩ :=
    attempt_activate sound (active ▸ changed)
  obtain ⟨sound', keeps⟩ := sound.attempt ⟨.activate dataset version, now, k⟩
  have registration : (s.attempt ⟨.activate dataset version, now, k⟩).registry.registration dataset =
      (s.registry.registration dataset).activated version versions
        { old with status := .active, activatedAt := some now } := by
    rw [attempted, apply, registration_put, if_pos rfl]
  have apart : previous ≠ version := fun same => differs (same ▸ active)
  generalize s.attempt ⟨.activate dataset version, now, k⟩ = t at *
  -- the version that was active is the last of the history but one
  have last := (sound.registrations dataset).last
  rw [show (s.registry.registration dataset).activeVersion = some previous from active] at last
  obtain ⟨earlier, history⟩ := List.getLast?_eq_some_iff.mp last
  have candidates : ((t.registry.registration dataset).activationHistory.reverse.filter
      fun v => some v ≠ (t.registry.registration dataset).activeVersion).head? = some previous := by
    rw [registration, DatasetRegistration.activated, history]
    simp [apart]
  have inside : previous ∈ (s.registry.registration dataset).versions :=
    (sound.registrations dataset).valid.1 previous active
  obtain ⟨manifest, was⟩ := Option.isSome_iff_exists.mp (AList.lookup_isSome.mpr inside)
  obtain ⟨kept, now_, -⟩ := keeps dataset previous manifest was
  have inactive : t.active dataset ≠ some previous := changed
  obtain ⟨versions', done⟩ := activateLocked_succeeds sound' now_ inactive now'
  have performed := (rollback_eq sound' candidates).trans done
  have all : t.perform now' (.rollback dataset) = _ := performed
  refine ⟨_, _, performed, ?_⟩
  rw [attempt_ok all]
  simp only [List.length_cons, List.length_nil, List.take_succ_cons, List.take_nil, List.foldl_cons,
    List.foldl_nil]
  rw [PublicDataStore.active, apply, registration_put, if_pos rfl]
  rfl

end PublicDataStore

/-- Runs of calls from an empty root. -/
abbrev Run : PublicDataStore → PublicDataStore → Prop :=
  Runs.Reaches (fun _ _ => True) fun s call t => t = s.attempt call

theorem PublicDataStore.sound_empty (root : String) : ({ root } : PublicDataStore).Sound := by
  refine ⟨fun _ => DatasetRegistration.sound_empty, fun _ _ _ there => ?_, fun _ _ _ known => ?_⟩
  · simp at there
  · simp [PublicDataRegistry.registration] at known

theorem Run.sound {s t : PublicDataStore} (run : Run s t) (sound : s.Sound) : t.Sound ∧ s.Keeps t := by
  induction run with
  | refl => exact ⟨sound, .refl s⟩
  | tail _ last ih =>
    obtain ⟨call, -, rfl⟩ := last
    obtain ⟨sound', keeps⟩ := ih.1.attempt call
    exact ⟨sound', ih.2.trans keeps⟩

/-- In every run of stages, activations and rollbacks, whole or stopped at any
write: the history of a dataset has no duplicates, holds registered versions and
ends with the active one, statuses follow the history, registered versions keep
their release and content, and a rollback undoes an activation. -/
theorem public_data_registry {root : String} {s : PublicDataStore} (run : Run { root } s) :
    (∀ dataset, (s.registry.registration dataset).Sound) ∧
      (∀ t, Run s t → s.Keeps t) ∧ s.Restores := by
  obtain ⟨sound, -⟩ := run.sound (PublicDataStore.sound_empty root)
  exact ⟨sound.registrations, fun t later => (later.sound sound).2, sound.restores⟩

/-- A release of county business patterns. -/
def release (version : String) : DatasetRelease where
  dataset := .cbp
  version := version
  dataYear := 2022
  releaseDate := 19889
  sourceUrl := "https://www.census.gov/programs-surveys/cbp.html"
  sourceName := "County Business Patterns"
  license := "public domain"
  sourceSha256 := some "7692c3ad3540bb803c020b3aee66cd8887123234ea0c6e7143c0add73ff431ed"
  geographicGranularity := ["county"]
  refreshCadence := "annual"
  retrievedAt := 1
  adapter := "cbp-v1"

/-- Two versions are staged and activated, and the second rolled back; one more
stage stops before it registers what it installed. -/
def refreshes : List Attempt :=
  [⟨.stage ⟨release "2022-v1", [⟨"tx", "48453", "county", [("establishments", .num 12)], []⟩]⟩ "a", 1, 2⟩,
   ⟨.activate .cbp "2022-v1", 2, 1⟩,
   ⟨.stage ⟨release "2022-v2", [⟨"tx", "48453", "county", [("establishments", .num 13)], []⟩]⟩ "b", 3, 2⟩,
   ⟨.activate .cbp "2022-v2", 4, 1⟩,
   ⟨.rollback .cbp, 5, 1⟩,
   ⟨.stage ⟨release "2022-v3", [⟨"tx", "48453", "county", [("establishments", .num 14)], []⟩]⟩ "c", 6, 1⟩]

theorem refreshed_registry :
    (∀ dataset, ((refreshes.foldl PublicDataStore.attempt { root := "data" }).registry.registration
      dataset).Sound) ∧
      (∀ t, Run (refreshes.foldl PublicDataStore.attempt { root := "data" }) t →
        (refreshes.foldl PublicDataStore.attempt { root := "data" }).Keeps t) ∧
      (refreshes.foldl PublicDataStore.attempt { root := "data" }).Restores :=
  public_data_registry (Runs.Allowed.reaches (by simp [refreshes, Runs.Allowed]))

end RankRent.PublicData
