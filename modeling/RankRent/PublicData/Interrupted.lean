import RankRent.PublicData.Undisturbed

/-!
# Operations that are interrupted

Wherever an operation stops, its files hold some of the writes that the store's model
says of it, in their order.
-/

namespace RankRent.PublicData
open Checks Interrupts

/-- The store after some of the writes of an operation. -/
def PublicDataStore.Partly (store : PublicDataStore) (operation : Operation) (now : DateTime) (d : Disk) : Prop :=
  ∃ k, d.store = store.attempt ⟨operation, now, k⟩

/-- The store after all of them. -/
def PublicDataStore.Wholly (store : PublicDataStore) (operation : Operation) (now : DateTime)
    (manifest : DatasetManifest) (d : Disk) : Prop :=
  ∃ writes, store.perform now operation = .ok (writes, manifest) ∧
    d.store = writes.foldl PublicDataStore.apply store

section Partly
variable {store : PublicDataStore} {operation : Operation} {now : DateTime} {d : Disk} {manifest : DatasetManifest}
  {writes : List PublicDataStore.Write}

theorem PublicDataStore.Partly.written (performed : store.perform now operation = .ok (writes, manifest)) (k : Nat)
    (here : d.store = (writes.take k).foldl PublicDataStore.apply store) : store.Partly operation now d :=
  ⟨k, here.trans (PublicDataStore.attempt_ok performed k).symm⟩

theorem PublicDataStore.Partly.untouched (here : d.store = store) : store.Partly operation now d := by
  refine ⟨0, ?_⟩
  cases performed : store.perform now operation with
  | error e =>
    rw [PublicDataStore.attempt, performed]
    exact here
  | ok result =>
    obtain ⟨writes, manifest⟩ := result
    rw [PublicDataStore.attempt_ok performed, List.take_zero]
    exact here

theorem PublicDataStore.Wholly.partly (wholly : store.Wholly operation now manifest d) :
    store.Partly operation now d := by
  obtain ⟨writes, performed, here⟩ := wholly
  refine .written performed writes.length ?_
  rw [List.take_length]
  exact here

end Partly

/-! ## The parts of an operation -/

section Parts
variable {α : Type} {I P : Disk → Prop} {Q : α → Disk → Prop}

theorem triple_validated {x : Except PublicDataError α} (stopped : ∀ d, P d → I d) :
    Triple I P (validated x) fun a d => x = .ok a ∧ P d := by
  refine (Triple.check stopped).weaken (fun _ here => here) fun a d ⟨ran, here⟩ => ⟨?_, here⟩
  cases x with
  | ok b =>
    cases ran
    rfl
  | error e => cases ran

theorem triple_touch (stopped : ∀ d, P d → I d) : Triple I P touch fun _ => P :=
  (Triple.read stopped).weaken (fun _ here => here) fun _ _ here => here.2

theorem triple_loadRegistry {store : PublicDataStore} (same : ∀ d, P d → d.store = store)
    (stopped : ∀ d, P d → I d) :
    Triple I P loadRegistry fun registry d => store.loadRegistry = .ok registry ∧ P d := by
  apply (Triple.read stopped).bind
  intro read
  refine (triple_validated fun d here => stopped d here.2).weaken (fun _ here => here) ?_
  rintro registry d ⟨loaded, rfl, here⟩
  rw [same d here] at loaded
  exact ⟨loaded, here⟩

theorem triple_writeRegistry {store : PublicDataStore} {change : PublicDataStore.Write}
    (before : ∀ d, d.store = store → I d) (after : ∀ d, d.store = store.apply change → I d) :
    Triple I (fun d => d.store = store) (writeRegistry change) fun _ d => d.store = store.apply change := by
  refine (triple_touch before).bind fun _ => (Triple.write before ?_).bind fun _ => triple_touch after
  intro d here
  exact congrArg (PublicDataStore.apply · change) here

variable {reader : PyJson.Reader} {lax : PyJson → Option PyJson}

theorem triple_validateRelease {store : PublicDataStore} (same : ∀ d, P d → d.store = store)
    (readable : store.Readable reader) (stopped : ∀ d, P d → I d) (dataset : DatasetKind) (version : String)
    (manifest : DatasetManifest) : Triple I P (validateRelease reader lax dataset version manifest) fun _ d =>
      validateReleaseDirectory (store.releasePath dataset version) (store.releases.lookup (dataset, version))
        manifest = .ok () ∧ P d := by
  apply (Triple.read stopped).bind
  rintro ⟨path, directory⟩
  refine (triple_validated fun d here => stopped d here.2).weaken (fun _ here => here) ?_
  rintro _ d ⟨valid, read, here⟩
  cases read
  rw [same d here, validateReleaseFiles_eq (readable.found _)] at valid
  exact ⟨valid, here⟩

/-! ## The lock -/

variable {timings : LockTimings} (free : ∀ (d : Disk) lock, P d → P { d with lock := lock })
  (unlocked : ∀ (d : Disk) lock, I d → I { d with lock := lock }) (stopped : ∀ d, P d → I d)

include free unlocked stopped

theorem triple_makeLock (token : String) (round : Round) : Triple I P (makeLock token round) fun _ => P := by
  refine (Triple.write (Q := P) stopped fun d here => free d _ here).bind fun _ => ?_
  exact Triple.handled (Triple.write stopped fun d here => free d _ here)
    (Triple.quietly (fun _ here => here) fun d here => unlocked d _ here)

theorem triple_acquireLock (token : String) (round : Round) (rounds : List Round) :
    Triple I P (acquireLock timings token round rounds) fun _ => P := by
  have found : Triple I P (Interrupts.read Disk.lock : StoreProgram (Option RegistryLock)) fun _ => P :=
    (Triple.read stopped).weaken (fun _ here => here) fun _ _ here => here.2
  have stale (round : Round) : Triple I P
      (Interrupts.write fun d => d.removeStaleLock timings round : StoreProgram Unit) fun _ => P :=
    Triple.write stopped fun d here => free d _ here
  induction rounds generalizing round with
  | nil =>
    refine found.bind fun lock => ?_
    cases lock with
    | none => exact triple_makeLock free unlocked stopped token round
    | some lock =>
      refine (stale round).bind fun _ => (Triple.check stopped).weaken (fun _ here => here) ?_
      rintro _ d ⟨-, here⟩
      exact here
  | cons next rest ih =>
    refine found.bind fun lock => ?_
    cases lock with
    | none => exact triple_makeLock free unlocked stopped token round
    | some lock => exact (stale round).bind fun _ => ih next

theorem triple_locked {s : Surroundings} {body : StoreProgram α} (runs : Triple I P body Q)
    (kept : ∀ a (d : Disk) lock, Q a d → Q a { d with lock := lock }) (done : ∀ a d, Q a d → I d) :
    Triple I P (locked timings s body) Q := by
  have release (d : Disk) : ∃ lock, d.releaseLock s.token = { d with lock := lock } := by
    rw [Disk.releaseLock]
    split
    · exact ⟨none, rfl⟩
    · exact ⟨d.lock, rfl⟩
  refine (triple_acquireLock free unlocked stopped s.token s.first s.rounds).bind fun _ => ?_
  refine Triple.ensured runs (fun a => Triple.quietly (done a) fun d here => ?_)
    (Triple.quietly (fun _ here => here) fun d here => ?_)
  · obtain ⟨lock, released⟩ := release d
    rw [released]
    exact kept a d lock here
  · obtain ⟨lock, released⟩ := release d
    rw [released]
    exact unlocked d lock here

end Parts

/-! ## Staging -/

section Staging
variable {reader : PyJson.Reader} {lax : PyJson → Option PyJson} {timings : LockTimings} {store : PublicDataStore}
  {s : Surroundings}

theorem Disk.rename_of_release {d : Disk} {name : String} {directory : ReleaseDirectory}
    (filled : d.temporaryRelease name = some directory) (dataset : DatasetKind) (version : String) :
    (d.rename name dataset version).store = d.store.apply (.install dataset version directory) := by
  rw [Disk.rename, filled]

/-- The commit makes the writes of the store's model, one after the other. -/
theorem triple_commitLocked {operation : Operation} {now : DateTime} {directory : ReleaseDirectory}
    (readable : store.Readable reader)
    (performed : ∀ writes manifest, store.commitStaged directory = .ok (writes, manifest) →
      store.perform now operation = .ok (writes, manifest)) :
    Triple (store.Partly operation now)
      (fun d => d.store = store ∧ d.temporaryRelease s.temporary = some directory)
      (commitLocked reader lax s directory.manifest) (store.Wholly operation now) := by
  have same : ∀ d : Disk, (d.store = store ∧ d.temporaryRelease s.temporary = some directory) → d.store = store :=
    fun _ here => here.1
  have stopped : ∀ d : Disk, (d.store = store ∧ d.temporaryRelease s.temporary = some directory) →
      store.Partly operation now d := fun _ here => .untouched here.1
  refine (triple_loadRegistry same stopped).bind fun registry => Triple.given fun loaded => ?_
  refine (Triple.read stopped).bind fun destination => ?_
  refine (Triple.given (p := destination = store.releases.lookup
    (directory.manifest.release.dataset, directory.manifest.release.version)) fun there => ?_).weaken
      (fun d here => ⟨by rw [here.1, here.2.1], here.2⟩) fun _ _ here => here
  cases destination with
  | some destination =>
    refine (triple_validated stopped).bind fun _ => Triple.given fun recoverable => ?_
    refine (triple_validateRelease same readable stopped _ _ _).bind fun _ => Triple.given fun complete => ?_
    rw [← there] at complete
    cases registered : (registry.registration directory.manifest.release.dataset).versions.lookup
        directory.manifest.release.version with
    | some existing =>
      have committed : store.commitStaged directory = .ok ([], existing) := by
        simp only [PublicDataStore.commitStaged, loaded, ← there, recoverable, complete, registered, Effects.ok_bind]
        rfl
      exact Triple.pure fun d here => ⟨[], performed _ _ committed, here.1⟩
    | none =>
      have committed : store.commitStaged directory =
          .ok ([PublicDataStore.registerStaged destination.manifest registry], destination.manifest) := by
        simp only [PublicDataStore.commitStaged, loaded, ← there, recoverable, complete, registered, Effects.ok_bind]
        rfl
      have run := performed _ _ committed
      refine ((triple_writeRegistry (fun _ => .untouched) fun _ => .written run 1).weaken same
        fun _ _ here => here).bind fun _ => ?_
      exact Triple.pure fun d here => ⟨_, run, here⟩
  | none =>
    have committed : store.commitStaged directory =
        .ok ([.install directory.manifest.release.dataset directory.manifest.release.version directory,
          PublicDataStore.registerStaged directory.manifest registry], directory.manifest) := by
      simp only [PublicDataStore.commitStaged, loaded, ← there, Effects.ok_bind]
      rfl
    have run := performed _ _ committed
    refine (triple_touch stopped).bind fun _ => ?_
    refine (Triple.write (Q := fun d => d.store = store.apply
      (.install directory.manifest.release.dataset directory.manifest.release.version directory))
        stopped fun d here => ?_).bind fun _ => ?_
    · rw [Disk.rename_of_release here.2, here.1]
    refine (triple_touch fun _ => .written run 1).bind fun _ => ?_
    refine (triple_writeRegistry (fun _ => .written run 1) fun _ => .written run 2).bind fun _ => ?_
    exact Triple.pure fun d here => ⟨_, run, here⟩

/-- The store before, and what the temporary directory holds. -/
def Holds (store : PublicDataStore) (name : String) (files : Temporary) (d : Disk) : Prop :=
  d.store = store ∧ d.temporaries.lookup name = some files

theorem Holds.update {name : String} {files : Temporary} {d : Disk} (holds : Holds store name files d)
    (f : Temporary → Temporary) : Holds store name (f files) (d.update name f) := by
  obtain ⟨same, there⟩ := holds
  refine ⟨same, ?_⟩
  rw [Disk.update]
  generalize d.temporaries = entries at there
  induction entries with
  | nil => cases there
  | cons entry entries ih =>
    rw [List.map_cons]
    by_cases this_ : entry.1 = name
    · rw [List.lookup_cons, show (name == entry.1) = true by simp [this_]] at there
      cases there
      simp [this_]
    · have apart : (name == entry.1) = false := by simp [Ne.symm this_]
      rw [List.lookup_cons, apart] at there
      rw [if_neg this_, List.lookup_cons, apart]
      exact ih there

theorem Holds.temporaryRelease {name : String} {records : List DatasetRecord} {manifest : DatasetManifest} {d : Disk}
    (holds : Holds store name ⟨records, some manifest⟩ d) :
    d.temporaryRelease name = some ⟨manifest, records⟩ := by
  rw [Disk.temporaryRelease, holds.2]

variable {I : Disk → Prop} (stopped : ∀ d, d.store = store → I d)

include stopped

theorem triple_makeTemporary (name : String) :
    Triple I (fun d => d.store = store) (makeTemporary name) fun _ => Holds store name {} := by
  refine (Triple.read stopped).bind fun there => ?_
  refine (Triple.check fun d here => stopped d here.2).bind fun _ => ?_
  refine Triple.write (fun d here => stopped d here.2.2) ?_
  rintro d ⟨new, rfl, same⟩
  rw [require_ok, Option.isSome_eq_false_iff, Option.isNone_iff_eq_none] at new
  refine ⟨same, ?_⟩
  rw [List.lookup_append, new]
  simp

theorem triple_writeRecords (name : String) (identities : List (String × String × List (String × String)))
    (records written : List DatasetRecord) :
    Triple I (Holds store name ⟨written, none⟩) (writeRecords name identities records) fun _ d =>
      checkIdentities identities records = .ok () ∧ Holds store name ⟨written ++ records, none⟩ d := by
  induction records generalizing identities written with
  | nil =>
    rw [List.append_nil]
    exact Triple.pure fun d here => ⟨rfl, here⟩
  | cons record rest ih =>
    refine (triple_validated fun d here => stopped d here.1).bind fun _ => Triple.given fun new => ?_
    refine (Triple.write (fun d here => stopped d here.1) fun d here => here.update _).bind fun _ => ?_
    refine (ih (record.identity :: identities) (written ++ [record])).weaken (fun _ here => here) ?_
    rintro _ d ⟨distinct, here⟩
    rw [List.append_assoc] at here
    refine ⟨?_, here⟩
    rw [checkIdentities, new]
    exact distinct

omit stopped in
theorem PublicDataAdapter.stage_ok (adapter : PublicDataAdapter) {temporary : String} {now : DateTime}
    (source : adapter.release.sourceSha256.isSome = true) (distinct : checkIdentities [] adapter.records = .ok ())
    (some_ : adapter.records ≠ []) :
    store.stage adapter temporary now = store.commitStaged (adapter.directory now) := by
  rw [PublicDataStore.stage_eq]
  simp only [require, if_pos source, if_pos some_, distinct, adapter.validates, Effects.ok_bind]

end Staging

section Operations
variable {reader : PyJson.Reader} {lax : PyJson → Option PyJson} {timings : LockTimings} {store : PublicDataStore}

theorem triple_fillAndCommit {s : Surroundings} {adapter : PublicDataAdapter} (readable : store.Readable reader)
    (source : adapter.release.sourceSha256.isSome = true) :
    Triple (store.Partly (.stage adapter s.temporary) s.now) (Holds store s.temporary {})
      (fillAndCommit reader lax timings s adapter) (store.Wholly (.stage adapter s.temporary) s.now) := by
  have stopped : ∀ d : Disk, d.store = store → store.Partly (.stage adapter s.temporary) s.now d :=
    fun _ => .untouched
  have held {files : Temporary} : ∀ d, Holds store s.temporary files d →
      store.Partly (.stage adapter s.temporary) s.now d := fun d here => stopped d here.1
  refine (triple_touch held).bind fun _ => ?_
  refine (triple_writeRecords stopped s.temporary [] adapter.records []).bind fun _ => Triple.given fun distinct => ?_
  refine (triple_validated held).bind fun _ => Triple.given fun some_ => ?_
  rw [require_ok] at some_
  refine (Triple.write held fun d here => here.update _).bind fun _ => (Triple.read held).bind fun _ => ?_
  refine (triple_validated fun d here => held d here.2).bind fun _ => ?_
  have performed : ∀ writes manifest, store.commitStaged (adapter.directory s.now) = .ok (writes, manifest) →
      store.perform s.now (.stage adapter s.temporary) = .ok (writes, manifest) := by
    intro writes manifest committed
    exact (adapter.stage_ok source distinct some_).trans committed
  have commits : Triple (store.Partly (.stage adapter s.temporary) s.now)
      (Holds store s.temporary ⟨adapter.records, some (adapter.manifest s.now)⟩)
      (commitLocked reader lax s (adapter.manifest s.now)) (store.Wholly (.stage adapter s.temporary) s.now) :=
    (triple_commitLocked readable performed).weaken (fun _ here => ⟨here.1, here.temporaryRelease⟩) fun _ _ here => here
  exact (triple_locked (fun _ _ here => here) (fun _ _ here => here) held commits (fun _ _ _ here => here)
    fun _ _ => PublicDataStore.Wholly.partly).weaken (fun d here => here.2.2) fun _ _ here => here

/-- A stage makes the writes of the store's model, as far as it comes. -/
theorem triple_stage (s : Surroundings) (adapter : PublicDataAdapter) (readable : store.Readable reader) :
    Triple (store.Partly (.stage adapter s.temporary) s.now) (fun d => d.store = store)
      (stage reader lax timings s adapter) (store.Wholly (.stage adapter s.temporary) s.now) := by
  have stopped : ∀ d : Disk, d.store = store → store.Partly (.stage adapter s.temporary) s.now d :=
    fun _ => .untouched
  refine (triple_validated stopped).bind fun _ => Triple.given fun source => ?_
  rw [require_ok] at source
  refine (triple_touch stopped).bind fun _ => (triple_makeTemporary stopped s.temporary).bind fun _ => ?_
  exact Triple.handled (triple_fillAndCommit readable source)
    (Triple.quietly (fun _ here => here) fun _ here => here)

/-! ## Activations -/

theorem triple_activateLocked {operation : Operation} {now : DateTime} {registry : PublicDataRegistry}
    {dataset : DatasetKind} {version : String} (readable : store.Readable reader)
    (performed : ∀ writes manifest, store.activateLocked registry dataset version now = .ok (writes, manifest) →
      store.perform now operation = .ok (writes, manifest)) :
    Triple (store.Partly operation now) (fun d => d.store = store)
      (activateLocked reader lax registry dataset version now) (store.Wholly operation now) := by
  have stopped : ∀ d : Disk, d.store = store → store.Partly operation now d := fun _ => .untouched
  refine (triple_validated stopped).bind fun manifest => Triple.given fun known => ?_
  refine (triple_validateRelease (fun _ here => here) readable stopped _ _ _).bind fun _ =>
    Triple.given fun complete => ?_
  have registered : store.validateRegistered registry dataset version = .ok manifest := by
    rw [PublicDataStore.validateRegistered, known]
    simp only [Effects.ok_bind, complete]
    rfl
  by_cases already : (registry.registration dataset).activeVersion = some version
  · rw [if_pos already]
    have done : store.activateLocked registry dataset version now = .ok ([], manifest) := by
      rw [PublicDataStore.activateLocked, registered]
      simp only [Effects.ok_bind, if_pos already]
      rfl
    exact Triple.pure fun d here => ⟨[], performed _ _ done, here⟩
  · rw [if_neg already]
    refine (triple_validated stopped).bind fun versions => Triple.given fun superseded => ?_
    have done : store.activateLocked registry dataset version now = .ok ([.register (registry.put dataset
        ((registry.registration dataset).activated version versions
          { manifest with status := .active, activatedAt := some now }))],
        { manifest with status := .active, activatedAt := some now }) := by
      rw [PublicDataStore.activateLocked, registered]
      simp only [Effects.ok_bind, if_neg already, superseded]
      rfl
    have run := performed _ _ done
    refine (triple_writeRegistry stopped fun _ => .written run 1).bind fun _ => ?_
    exact Triple.pure fun d here => ⟨_, run, here⟩

theorem triple_activate (s : Surroundings) (dataset : DatasetKind) (version : String)
    (readable : store.Readable reader) :
    Triple (store.Partly (.activate dataset version) s.now) (fun d => d.store = store)
      (activate reader lax timings s dataset version) (store.Wholly (.activate dataset version) s.now) := by
  have stopped : ∀ d : Disk, d.store = store → store.Partly (.activate dataset version) s.now d :=
    fun _ => .untouched
  refine triple_locked (fun _ _ here => here) (fun _ _ here => here) stopped ?_ (fun _ _ _ here => here)
    fun _ _ => PublicDataStore.Wholly.partly
  refine (triple_loadRegistry (fun _ here => here) stopped).bind fun registry => Triple.given fun loaded => ?_
  refine triple_activateLocked readable fun writes manifest done => ?_
  rw [PublicDataStore.perform, PublicDataStore.activate, loaded]
  exact done

theorem triple_rollback (s : Surroundings) (dataset : DatasetKind) (readable : store.Readable reader) :
    Triple (store.Partly (.rollback dataset) s.now) (fun d => d.store = store)
      (rollback reader lax timings s dataset) (store.Wholly (.rollback dataset) s.now) := by
  have stopped : ∀ d : Disk, d.store = store → store.Partly (.rollback dataset) s.now d := fun _ => .untouched
  refine triple_locked (fun _ _ here => here) (fun _ _ here => here) stopped ?_ (fun _ _ _ here => here)
    fun _ _ => PublicDataStore.Wholly.partly
  refine (triple_loadRegistry (fun _ here => here) stopped).bind fun registry => Triple.given fun loaded => ?_
  dsimp only
  cases candidates : (registry.registration dataset).activationHistory.reverse.filter
      fun version => some version ≠ (registry.registration dataset).activeVersion with
  | nil =>
    refine (triple_validated stopped).weaken (fun _ here => here) ?_
    rintro _ d ⟨⟨⟩, -⟩
  | cons version older =>
    refine triple_activateLocked readable fun writes manifest done => ?_
    rw [PublicDataStore.perform, PublicDataStore.rollback, loaded]
    simp only [Effects.ok_bind, candidates]
    exact done

end Operations

end RankRent.PublicData
