import RankRent.Properties.Writes

/-!
# The provider a live site names

Activations, replacements and releases write the configuration of the active
provider next to the live sites. A transition of an assignment by itself writes
none: it is seen only where its property has no live site.
-/

namespace RankRent.Properties
open Leads (ProviderAssignmentStatus nextId)
open Checks

/-- The configuration next to every live site is that of the active assignment. -/
def Advertises (w : World) : Prop :=
  ∀ d ∈ w.store.deployments, d.status = .deployed → d.localOnly = true →
    Files.read w.files (configPath d.directory) =
      some (providerConfig (activeAssignment w.store.assignments d.propertyId))

/-- The assignment a request moves by itself, and where to. -/
def Call.moves (call : Call) : Option (Nat × ProviderAssignmentStatus) :=
  match call.request with
  | .provider (.move assignmentId target _) => some (assignmentId, target)
  | _ => none

/-- An assignment is moved into or out of its active status only while its
property has no live site. -/
def MovesUnseen (w : World) (call : Call) : Prop :=
  ∀ move ∈ call.moves, ∀ row ∈ w.store.assignments, row.id = move.1 →
    (row.status = .active ↔ move.2 ≠ .active) →
      ∀ d ∈ w.store.deployments, Deployment.live row.propertyId d = false

instance (w : World) (call : Call) : Decidable (MovesUnseen w call) :=
  inferInstanceAs (Decidable (∀ move ∈ call.moves, _))

/-! ## The active assignment after a request -/

/-- An assignment of the property is active now; other properties keep theirs. -/
structure Activates (rows after : List ProviderAssignment) (propertyId : String) (assignmentId : Nat) :
    Prop where
  distinct : (after.map ProviderAssignment.id).Nodup
  oneActive : OneActive after
  active : ∃ row ∈ after, row.id = assignmentId ∧ row.propertyId = propertyId ∧ row.status = .active
  others : ∀ other, other ≠ propertyId → activeAssignment after other = activeAssignment rows other

section Assignments
variable {rows after : List ProviderAssignment} {propertyId : String} {assignmentId : Nat} {now : DateTime}

theorem Activates.found (activates : Activates rows after propertyId assignmentId) :
    activeAssignment after propertyId = Table.get ProviderAssignment.id after assignmentId := by
  obtain ⟨row, member, rfl, owner, active⟩ := activates.active
  rw [Table.get_of_mem activates.distinct member]
  exact (activeAssignment_some activates.distinct activates.oneActive).mpr ⟨member, owner, active⟩

/-- The request signs the assignment that it makes active. -/
theorem Activates.signed (activates : Activates rows after propertyId assignmentId)
    {sign : ProviderAssignment → ProviderAssignment} (id : ∀ row, (sign row).id = row.id)
    (owner : ∀ row, (sign row).propertyId = row.propertyId)
    (status : ∀ row, (sign row).status = row.status) :
    Activates rows (Table.update ProviderAssignment.id after assignmentId sign) propertyId assignmentId := by
  obtain ⟨row, member, rfl, property, active⟩ := activates.active
  have ids : (Table.update ProviderAssignment.id after row.id sign).map ProviderAssignment.id =
      after.map ProviderAssignment.id := Table.map_update _ id
  have distinct : ((Table.update ProviderAssignment.id after row.id sign).map
      ProviderAssignment.id).Nodup := ids ▸ activates.distinct
  -- every row now was one of the same key, property and status
  have was : ∀ a ∈ Table.update ProviderAssignment.id after row.id sign,
      ∃ old ∈ after, old.id = a.id ∧ old.propertyId = a.propertyId ∧ old.status = a.status := by
    intro a inside
    obtain ⟨old, there, -, rfl⟩ | ⟨there, -⟩ := Table.mem_update.mp inside
    · exact ⟨old, there, (id old).symm, (owner old).symm, (status old).symm⟩
    · exact ⟨a, there, rfl, rfl, rfl⟩
  have oneActive : OneActive (Table.update ProviderAssignment.id after row.id sign) := by
    intro a inside b among same first second
    obtain ⟨a', inside, ida, owna, sta⟩ := was a inside
    obtain ⟨b', among, idb, ownb, stb⟩ := was b among
    rw [← ida, ← idb]
    exact activates.oneActive a' inside b' among (by rw [owna, ownb, same]) (by rw [sta, first])
      (by rw [stb, second])
  refine ⟨distinct, oneActive, ⟨sign row, ?_, id row, (owner row).trans property,
    (status row).trans active⟩, fun other differs => ?_⟩
  · exact (Table.mem_update_row activates.distinct member).mpr (Or.inl rfl)
  · rw [← activates.others other differs]
    refine activeAssignment_congr activates.distinct activates.oneActive distinct oneActive
      fun a owns _ => ?_
    rw [Table.mem_update_row activates.distinct member]
    constructor
    · rintro (rfl | ⟨there, -⟩)
      · rw [owner row, property] at owns
        exact absurd owns.symm differs
      · exact there
    · intro there
      refine Or.inr ⟨there, fun same => ?_⟩
      rw [Table.get_inj activates.distinct there member same, property] at owns
      exact differs owns.symm

theorem activate_activates (unique : (rows.map ProviderAssignment.id).Nodup) (one : OneActive rows)
    (done : activate rows assignmentId now = .ok after) :
    ∃ row, Table.get ProviderAssignment.id rows assignmentId = some row ∧
      Activates rows after row.propertyId assignmentId := by
  obtain ⟨row, rfl, there, ⟨active, rfl⟩ | ⟨inactive, -, free, rfl⟩⟩ := activate_ok unique done
  · exact ⟨row, there, unique, one, ⟨row, Table.get_mem there, rfl, rfl, active⟩, fun _ _ => rfl⟩
  · have member := Table.get_mem there
    have distinct : ((Table.update ProviderAssignment.id rows row.id
        (.moved .active none now)).map ProviderAssignment.id).Nodup := by
      rw [ids_moved]
      exact unique
    have inside : ∀ a, a ∈ Table.update ProviderAssignment.id rows row.id (.moved .active none now) ↔
        a = row.moved .active none now ∨ a ∈ rows ∧ a.id ≠ row.id :=
      fun _ => Table.mem_update_row unique member
    have oneActive : OneActive (Table.update ProviderAssignment.id rows row.id
        (.moved .active none now)) := by
      intro a first b second same
      rw [inside] at first second
      intro activeA activeB
      obtain rfl | ⟨first, -⟩ := first
      · obtain rfl | ⟨second, -⟩ := second
        · rfl
        · exact absurd activeB (free b second same.symm)
      · obtain rfl | ⟨second, -⟩ := second
        · exact absurd activeA (free a first same)
        · exact one a first b second same activeA activeB
    refine ⟨row, there, distinct, oneActive, ⟨_, (inside _).mpr (Or.inl rfl), rfl, rfl, rfl⟩, ?_⟩
    intro other differs
    refine activeAssignment_congr unique one distinct oneActive fun a owns active => ?_
    rw [inside]
    constructor
    · rintro (rfl | ⟨kept, -⟩)
      · exact absurd owns.symm differs
      · exact kept
    · refine fun kept => Or.inr ⟨kept, fun same => ?_⟩
      rw [Table.get_inj unique kept member same] at owns
      exact differs owns.symm

theorem replace_activates (unique : (rows.map ProviderAssignment.id).Nodup) (one : OneActive rows)
    {currentId replacementId : Nat} {reason : String}
    (done : replaceAssignment rows currentId replacementId reason now = .ok after) :
    ∃ current, Table.get ProviderAssignment.id rows currentId = some current ∧
      Activates rows after current.propertyId replacementId := by
  obtain ⟨current, replacement, rfl, rfl, replaces⟩ := replaceAssignment_ok unique one done
  have distinct : (after.map ProviderAssignment.id).Nodup := replaces.ids ▸ unique
  have oneActive := one.replace unique replaces
  refine ⟨current, replaces.current_found, distinct, oneActive,
    ⟨_, (replaces.mem unique _).mpr (Or.inr (Or.inl rfl)), rfl, replaces.same_property.symm, rfl⟩,
    fun other differs => ?_⟩
  refine activeAssignment_congr unique one distinct oneActive fun a owns active => ?_
  rw [replaces.mem unique]
  constructor
  · rintro (rfl | rfl | ⟨kept, -⟩)
    · exact absurd owns.symm differs
    · exact absurd (owns.symm.trans replaces.same_property.symm) differs
    · exact kept
  · refine fun kept => Or.inr (Or.inr ⟨kept, fun same => ?_, fun same => ?_⟩)
    · rw [Table.get_inj unique kept (Table.get_mem replaces.current_found) same] at owns
      exact differs owns.symm
    · rw [Table.get_inj unique kept (Table.get_mem replaces.replacement_found) same] at owns
      exact differs (owns.symm.trans replaces.same_property.symm)

end Assignments

/-! ## What is read next to the live sites -/

section Reads
variable {tree : Files.Tree}

theorem configPath_inj {a b : Files.Path} : configPath a = configPath b ↔ a = b :=
  List.append_left_inj _

theorem read_update {s : Store} {propertyId : String} {active : Option ProviderAssignment}
    {directory : Files.Path} :
    Files.read (Files.runAll tree (updateProviderRuntimeConfiguration s propertyId active))
        (configPath directory) =
      if ∃ d ∈ s.deployments, Deployment.live propertyId d = true ∧ d.directory = directory then
        some (providerConfig active)
      else Files.read tree (configPath directory) := by
  have paths : updateProviderRuntimeConfiguration s propertyId active =
      ((s.deployments.filter (Deployment.live propertyId)).map fun d => configPath d.directory).flatMap
        fun path => Files.writeText path (providerConfig active) := by
    rw [List.flatMap_map]
    rfl
  rw [paths, Files.read_writeText_each]
  refine if_congr ?_ rfl rfl
  simp only [List.mem_map, List.mem_filter, configPath_inj, and_assoc]

theorem read_ops {release : Release} {active : Option ProviderAssignment} {directory : Files.Path}
    (depth : directory.length = 4) :
    Files.read (Files.runAll tree (release.ops tree active)) (configPath directory) =
      if directory = release.destination then some (providerConfig active)
      else Files.read tree (configPath directory) := by
  by_cases same : directory = release.destination
  · rw [if_pos same, Release.ops, Files.runAll_append, writeProviderRuntimeFile, Files.read_writeText,
      if_pos (by rw [same])]
  · rw [if_neg same]
    refine Files.read_untouched fun op member path => same ?_
    have inside := ops_path member
    rw [path] at inside
    exact (apart_of_depth inside (by rw [depth]; rfl)).symm

theorem read_build {artifact : BuildArtifact} {propertyId key sha : String}
    {environment environment' : BuildEnvironment} {id : String} :
    Files.read (Files.runAll tree (artifact.ops (outputPath propertyId environment key) tree))
        (configPath ["deployments", id, environment'.value, sha]) =
      Files.read tree (configPath ["deployments", id, environment'.value, sha]) := by
  refine Files.read_untouched fun op member path => ?_
  obtain ⟨rel, below, -⟩ := BuildArtifact.ops_path member
  rw [below] at path
  simp [outputPath, configPath] at path

end Reads

/-! ## The invariant -/

structure Advertised (w : World) : Prop where
  housed : Housed w.store
  distinct : (w.store.assignments.map ProviderAssignment.id).Nodup
  oneActive : OneActive w.store.assignments
  current : Advertises w

section Steps
variable {w w' : World} {call : Call}

theorem Advertised.advertise (sound : Advertised w) {after : List ProviderAssignment}
    {propertyId : String} {assignmentId : Nat}
    (activates : Activates w.store.assignments after propertyId assignmentId) :
    Advertised (w.advertise propertyId assignmentId after) := by
  refine ⟨⟨sound.housed.deployments, sound.housed.builds⟩, activates.distinct, activates.oneActive, ?_⟩
  intro d member deployed here
  have member : d ∈ w.store.deployments := member
  simp only [World.advertise, read_update]
  by_cases owner : d.propertyId = propertyId
  · rw [if_pos ⟨d, member, by simp [Deployment.live, owner, deployed, here], rfl⟩, owner,
      activates.found]
  · rw [if_neg, activates.others _ owner]
    · exact sound.current d member deployed here
    · rintro ⟨other, inside, live, same⟩
      obtain ⟨sha, home⟩ := sound.housed.deployments d member
      obtain ⟨sha', home'⟩ := sound.housed.deployments other inside
      rw [home, home'] at same
      simp only [Deployment.live, Bool.and_eq_true, decide_eq_true_eq] at live
      injection same with _ same
      injection same with same _
      exact owner (same.symm.trans live.1.1)

/-- The configurations stay, and what they say is still so. -/
theorem Advertised.quiet (sound : Advertised w) (housed : Housed w'.store)
    (distinct : (w'.store.assignments.map ProviderAssignment.id).Nodup)
    (oneActive : OneActive w'.store.assignments)
    (deployments : w'.store.deployments = w.store.deployments)
    (files : ∀ d ∈ w.store.deployments, Files.read w'.files (configPath d.directory) =
      Files.read w.files (configPath d.directory))
    (same : ∀ d ∈ w.store.deployments, d.status = .deployed → d.localOnly = true →
      activeAssignment w'.store.assignments d.propertyId =
        activeAssignment w.store.assignments d.propertyId) : Advertised w' := by
  refine ⟨housed, distinct, oneActive, fun d member deployed here => ?_⟩
  rw [deployments] at member
  rw [files d member, same d member deployed here]
  exact sound.current d member deployed here

theorem Advertised.release (sound : Advertised w) {request : ReleaseRequest} {actor : Review.ReviewActor}
    {now : DateTime} (done : serveRelease w request actor now = .ok w') (housed : Housed w'.store) :
    Advertised w' := by
  have kept : w'.store.assignments = w.store.assignments := by rw [serveRelease_frame done]
  refine ⟨housed, kept ▸ sound.distinct, kept ▸ sound.oneActive, ?_⟩
  obtain ⟨release, -, -, rfl⟩ := serveRelease_ok done
  intro d member deployed here
  obtain ⟨sha, home⟩ := housed.deployments d member
  rw [read_ops (by rw [home]; rfl)]
  obtain rfl | ⟨prior, -, old, inside, -, rfl⟩ | ⟨inside, -⟩ := Release.mem_deployments.mp member
  · rw [Release.row_directory, if_pos rfl, Release.row_propertyId]
    rfl
  · cases deployed
  · split
    · rename_i same
      rw [home, Release.destination] at same
      injection same with _ same
      injection same with same _
      rw [same]
      rfl
    · exact sound.current d inside deployed here

/-- What a new assignment is. -/
theorem createProviderAssignment_ok {s s' : Store} {propertyId : String}
    {request : ProviderAssignmentInput} {actor : Review.ReviewActor} {now : DateTime}
    (done : createProviderAssignment s propertyId request actor now = .ok s') :
    ∃ new, new.id = nextId ProviderAssignment.id s.assignments ∧ new.status = .candidate ∧
      s'.assignments = s.assignments ++ [new] := by
  simp only [createProviderAssignment, bind_ok, assignmentError_ok, pure_ok] at done
  obtain ⟨-, -, -, -, -, -, -, -, rows, created, rfl⟩ := done
  rw [createAssignment_ok created]
  exact ⟨_, rfl, rfl, Table.update_snoc rfl (nextId_notMem ProviderAssignment.id s.assignments)⟩

theorem Advertised.create (sound : Advertised w) {new : ProviderAssignment} (housed : Housed w'.store)
    (id : new.id = nextId ProviderAssignment.id w.store.assignments) (status : new.status = .candidate)
    (grown : w'.store.assignments = w.store.assignments ++ [new])
    (deployments : w'.store.deployments = w.store.deployments) (files : w'.files = w.files) :
    Advertised w' := by
  have distinct : (w'.store.assignments.map ProviderAssignment.id).Nodup := by
    rw [grown]
    exact Table.keys_snoc sound.distinct (id ▸ nextId_notMem ProviderAssignment.id w.store.assignments)
  have inside : ∀ a : ProviderAssignment, a.status = .active →
      (a ∈ w'.store.assignments ↔ a ∈ w.store.assignments) := by
    intro a active
    rw [grown, List.mem_append, List.mem_singleton]
    constructor
    · rintro (kept | rfl)
      · exact kept
      · rw [status] at active
        cases active
    · exact Or.inl
  have oneActive : OneActive w'.store.assignments := by
    intro a first b second same activeA activeB
    exact sound.oneActive a ((inside a activeA).mp first) b ((inside b activeB).mp second) same
      activeA activeB
  exact sound.quiet housed distinct oneActive deployments (fun _ _ => by rw [files]) fun d _ _ _ =>
    activeAssignment_congr sound.distinct sound.oneActive distinct oneActive
      fun a _ active => inside a active

theorem Advertised.move (sound : Advertised w) {assignmentId : Nat} {target : ProviderAssignmentStatus}
    {reason : Option String} {now : DateTime} {after : List ProviderAssignment}
    (done : transition w.store.assignments assignmentId target reason now = .ok after)
    (unseen : ∀ row ∈ w.store.assignments, row.id = assignmentId → (row.status = .active ↔ target ≠ .active) →
      ∀ d ∈ w.store.deployments, Deployment.live row.propertyId d = false) :
    Advertised { w with store := { w.store with assignments := after } } := by
  have housed : Housed { w.store with assignments := after } :=
    ⟨sound.housed.deployments, sound.housed.builds⟩
  obtain ⟨row, id, there, ⟨-, rfl⟩ | ⟨differs, moves⟩⟩ := transition_ok done
  · exact sound
  · have member := Table.get_mem there
    have distinct : (after.map ProviderAssignment.id).Nodup := by
      rw [moves.written, ids_moved]
      exact sound.distinct
    have oneActive := sound.oneActive.move sound.distinct moves
    refine sound.quiet housed distinct oneActive rfl (fun _ _ => rfl) fun d inside deployed here => ?_
    refine activeAssignment_congr sound.distinct sound.oneActive distinct oneActive fun a owner active => ?_
    -- of this property the transition touched no active row
    have apart : d.propertyId = row.propertyId → row.status ≠ .active ∧ target ≠ .active := by
      intro same
      by_contra touched
      have seen := unseen row member id ?_ d inside
      · simp [Deployment.live, same, deployed, here] at seen
      · by_cases active : row.status = .active
        · simp only [active, true_iff]
          exact fun became => differs (active.trans became.symm)
        · simp only [active, false_iff, not_not]
          by_contra other
          exact touched ⟨active, other⟩
    rw [moves.mem sound.distinct]
    constructor
    · rintro (rfl | ⟨kept, -⟩)
      · exact absurd active (apart owner.symm).2
      · exact kept
    · refine fun kept => Or.inr ⟨kept, fun same => ?_⟩
      have := Table.get_inj sound.distinct kept member same
      subst this
      exact (apart owner.symm).1 active

theorem Advertised.provider (sound : Advertised w) {request : ProviderRequest}
    {actor : Review.ReviewActor} {now : DateTime} (done : request.handle w actor now = .ok w')
    (unseen : MovesUnseen w ⟨.provider request, actor, now⟩) : Advertised w' := by
  have housed : Housed w'.store := by
    constructor <;> rw [ProviderRequest.frame done]
    exacts [sound.housed.deployments, sound.housed.builds]
  cases request with
  | create propertyId request =>
    obtain ⟨store, ok, rfl⟩ := World.keeping_ok done
    obtain ⟨new, id, status, grown⟩ := createProviderAssignment_ok ok
    exact sound.create housed id status grown (by rw [ProviderRequest.frame done]) rfl
  | activate assignmentId reason =>
    simp only [ProviderRequest.handle, activateProvider, bind_ok, assignment_ok, assignmentError_ok,
      pure_ok] at done
    obtain ⟨-, -, row, there, -, -, rows, became, rfl⟩ := done
    obtain ⟨same, found, activates⟩ := activate_activates sound.distinct sound.oneActive became
    rw [Table.get_key there, there] at found
    cases found
    exact sound.advertise (activates.signed (fun _ => rfl) (fun _ => rfl) fun _ => rfl)
  | replace propertyId replacementAssignmentId reason =>
    simp only [ProviderRequest.handle, replaceProvider, bind_ok, found_ok, assignment_ok,
      assignmentError_ok, pure_ok] at done
    obtain ⟨-, -, current, active, replacement, -, -, -, rows, became, rfl⟩ := done
    obtain ⟨same, found, activates⟩ := replace_activates sound.distinct sound.oneActive became
    obtain ⟨member, owner, -⟩ := (activeAssignment_some sound.distinct sound.oneActive).mp active
    rw [Table.get_of_mem sound.distinct member] at found
    cases found
    rw [owner] at activates
    exact sound.advertise (activates.signed (fun _ => rfl) (fun _ => rfl) fun _ => rfl)
  | move assignmentId target reason =>
    obtain ⟨store, ok, rfl⟩ := World.keeping_ok done
    simp only [bind_ok, assignmentError_ok, pure_ok] at ok
    obtain ⟨after, moved, rfl⟩ := ok
    exact sound.move moved (unseen _ rfl)
  | route propertyId adapterName routeId status =>
    obtain ⟨store, ok, rfl⟩ := World.keeping_ok done
    simp only [configureCallRouting, bind_ok, pure_ok] at ok
    obtain ⟨-, -, -, -, -, -, rfl⟩ := ok
    exact ⟨⟨sound.housed.deployments, sound.housed.builds⟩, sound.distinct, sound.oneActive, sound.current⟩
  | health propertyId status =>
    obtain ⟨store, ok, rfl⟩ := World.keeping_ok done
    simp only [checkCallRoutingHealth, bind_ok, pure_ok] at ok
    obtain ⟨-, -, rfl⟩ := ok
    exact ⟨⟨sound.housed.deployments, sound.housed.builds⟩, sound.distinct, sound.oneActive, sound.current⟩

theorem Advertised.handle (sound : Advertised w) (unseen : MovesUnseen w call)
    (done : w.handle call.actor call.now call.request = .ok w') : Advertised w' := by
  have housed := sound.housed.handle done
  have untouched : w'.store.assignments = w.store.assignments →
      w'.store.deployments = w.store.deployments →
      (∀ d ∈ w.store.deployments, Files.read w'.files (configPath d.directory) =
        Files.read w.files (configPath d.directory)) → Advertised w' := by
    intro assignments deployments files
    exact sound.quiet housed (assignments ▸ sound.distinct) (assignments ▸ sound.oneActive) deployments
      files fun _ _ _ _ => by rw [assignments]
  obtain ⟨request, actor, now⟩ := call
  cases request with
  | property request =>
    exact untouched (by rw [PropertyRequest.frame done]) (by rw [PropertyRequest.frame done])
      (by rw [PropertyRequest.frame done]; exact fun _ _ => rfl)
  | domain request =>
    exact untouched (by rw [DomainRequest.frame done]) (by rw [DomainRequest.frame done])
      (by rw [DomainRequest.frame done]; exact fun _ _ => rfl)
  | asset request =>
    exact untouched (by rw [AssetRequest.frame done]) (by rw [AssetRequest.frame done])
      (by rw [AssetRequest.frame done]; exact fun _ _ => rfl)
  | config request =>
    exact untouched (by rw [ConfigRequest.frame done]) (by rw [ConfigRequest.frame done])
      (by rw [ConfigRequest.frame done]; exact fun _ _ => rfl)
  | provider request => exact sound.provider done unseen
  | release request => exact sound.release done housed
  | build request =>
    refine untouched (by rw [BuildRequest.frame done]) (by rw [BuildRequest.frame done]) ?_
    intro d member
    obtain ⟨sha, home⟩ := sound.housed.deployments d member
    cases request with
    | build configId environment artifact =>
      simp only [World.handle, BuildRequest.handle, buildSite, bind_ok] at done
      obtain ⟨config, -, prop, -, -, -, -, -, -, -, done⟩ := done
      rw [home]
      split at done
      · cases done
        exact read_build
      · cases done
        exact read_build
    | review buildId request =>
      obtain ⟨store, ok, rfl⟩ := World.keeping_ok done
      rfl

theorem World.Fresh.advertised (fresh : w.Fresh) : Advertised w := by
  refine ⟨fresh.housed, ?_, ?_, ?_⟩
  · simp [fresh.assignments]
  · simp [fresh.assignments, OneActive]
  · simp [Advertises, fresh.deployments]

end Steps

/-- Live sites name the active provider in every run that moves an assignment
into or out of its active status, by itself, only while its property has no live
site. -/
theorem live_sites_advertise {w w' : World} (fresh : w.Fresh) (run : RunsUnder MovesUnseen w w') :
    Advertises w' :=
  (run.invariant (I := Advertised) (fun _ _ _ sound unseen done => sound.handle unseen done)
    fresh.advertised).current

/-! ## A provider paused -/

theorem serve_move_files {w : World} {assignmentId : Nat} {target : ProviderAssignmentStatus}
    {reason : Option String} {now : DateTime} :
    (w.serve (ask (.provider (.move assignmentId target reason)) now)).files = w.files := by
  rw [World.serve]
  split
  · rename_i handled
    obtain ⟨store, -, rfl⟩ := World.keeping_ok handled
    rfl
  · rfl

theorem providerConfig_some (row : ProviderAssignment) : providerConfig (some row) ≠ providerConfig none :=
  PyJson.dumps_obj_ne (by simp)

/-- The lead router pauses the active provider. -/
def paused : Call := ask (.provider (.move 1 .paused none)) 11

/-- The configuration of a live site names a provider that is no longer active. -/
theorem paused_still_advertised :
    RunsUnder (fun _ _ => True) untouched (siteLive.serve paused) ∧
      ¬ Advertises (siteLive.serve paused) := by
  have before : RunsUnder MovesUnseen untouched siteLive := Runs.Allowed.reaches (by decide +kernel)
  constructor
  · exact before.any.snoc (fun _ => trivial) rfl
  · intro advertises
    have sound : Advertised siteLive := before.invariant
      (I := Advertised) (fun _ _ _ sound unseen done => sound.handle unseen done)
      untouched_fresh.advertised
    have live : ∀ d ∈ siteLive.store.deployments, d ∈ (siteLive.serve paused).store.deployments ∧
        d.status = .deployed ∧ d.localOnly = true ∧
        (activeAssignment siteLive.store.assignments d.propertyId).isSome ∧
        (activeAssignment (siteLive.serve paused).store.assignments d.propertyId).isNone := by
      decide +kernel
    obtain ⟨d, member⟩ : ∃ d, d ∈ siteLive.store.deployments :=
      List.exists_mem_of_length_pos (by decide +kernel)
    obtain ⟨member', deployed, here, named, gone⟩ := live d member
    have old := sound.current d member deployed here
    have new := advertises d member' deployed here
    obtain ⟨row, active⟩ := Option.isSome_iff_exists.mp named
    rw [active] at old
    rw [Option.isNone_iff_eq_none.mp gone] at new
    rw [paused, serve_move_files, old] at new
    exact providerConfig_some row (Option.some.inj new)

theorem site_live_advertises : Advertises siteLive :=
  live_sites_advertise untouched_fresh (Runs.Allowed.reaches (by decide +kernel))

end RankRent.Properties
