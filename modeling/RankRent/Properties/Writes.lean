import RankRent.Properties.Deployments

/-!
# The files a request writes

The writes of a request, in their order, and where they go: a build writes below
its output directory, a release below its destination, a new active provider the
configurations of the live sites of its property.
-/

namespace RankRent.Properties
open Checks

/-- What a request that gets as far writes. -/
def World.writes (w : World) (call : Call) : List Files.Op :=
  match w.handle call.actor call.now call.request with
  | .error _ => []
  | .ok w' => match call.request with
    | .build (.build configId environment artifact) => match w.store.config configId with
      | .ok config => artifact.ops (outputPath config.propertyId environment artifact.key) w.files
      | .error _ => []
    | .provider (.activate assignmentId _) => match w.store.assignment assignmentId with
      | .ok row => updateProviderRuntimeConfiguration w.store row.propertyId
          (Table.get ProviderAssignment.id w'.store.assignments assignmentId)
      | .error _ => []
    | .provider (.replace propertyId replacementAssignmentId _) =>
      updateProviderRuntimeConfiguration w.store propertyId
        (Table.get ProviderAssignment.id w'.store.assignments replacementAssignmentId)
    | .release request => match request.start w.store call.actor with
      | .ok release =>
        release.ops w.files (activeAssignment w.store.assignments release.propertyId)
      | .error _ => []
    | _ => []

/-- Live sites are below the directory of their property and environment, and
builds below that of all builds. -/
structure Housed (s : Store) : Prop where
  deployments : ∀ d ∈ s.deployments, ∃ sha,
    d.directory = ["deployments", d.propertyId, d.environment.value, sha]
  builds : ∀ build ∈ s.builds, ∃ propertyId environment key,
    build.outputPath = outputPath propertyId environment key

section Paths
variable {release : Release} {tree : Files.Tree} {active : Option ProviderAssignment} {op : Files.Op}

theorem copyOps_path (member : op ∈ release.copyOps tree) : release.destination <+: op.path := by
  rw [Release.copyOps, List.mem_append] at member
  obtain removed | copied := member
  · obtain ⟨rel, rfl, -⟩ := Files.removeTree_path removed
    exact ⟨rel, rfl⟩
  · rw [Files.copyTree_eq] at copied
    obtain ⟨rel, -, path⟩ := Files.writeTree_path copied
    exact ⟨rel, path.symm⟩

theorem ops_path (member : op ∈ release.ops tree active) : release.destination <+: op.path := by
  rw [Release.ops, List.mem_append] at member
  obtain copied | configured := member
  · exact copyOps_path copied
  · simp only [writeProviderRuntimeFile, Files.writeText, List.mem_cons, List.not_mem_nil, or_false]
      at configured
    obtain rfl | rfl := configured <;> exact List.prefix_append _ _

theorem BuildArtifact.ops_path {artifact : BuildArtifact} {output : Files.Path}
    (member : op ∈ artifact.ops output tree) :
    ∃ rel, op.path = output ++ rel ∧ (op = .remove op.path ∨ rel ∈ siteFiles) := by
  rw [BuildArtifact.ops, List.mem_append] at member
  obtain removed | written := member
  · obtain ⟨rel, rfl, -⟩ := Files.removeTree_path removed
    exact ⟨rel, rfl, Or.inl rfl⟩
  · have written : op ∈ Files.writeTree output artifact.files := written
    obtain ⟨rel, named, path⟩ := Files.writeTree_path written
    rw [artifact.names] at named
    exact ⟨rel, path, Or.inr named⟩

theorem update_path {s : Store} {propertyId : String}
    (member : op ∈ updateProviderRuntimeConfiguration s propertyId active) :
    ∃ d ∈ s.deployments, op.path = configPath d.directory := by
  obtain ⟨d, live, written⟩ := List.mem_flatMap.mp member
  refine ⟨d, (List.mem_filter.mp live).1, ?_⟩
  simp only [writeProviderRuntimeFile, Files.writeText, List.mem_cons, List.not_mem_nil, or_false]
    at written
  obtain rfl | rfl := written <;> rfl

/-- Directories of one depth do not lie in each other. -/
theorem apart_of_depth {a b rel : Files.Path} (inside : a <+: b ++ rel) (depth : a.length = b.length) :
    a = b :=
  (List.prefix_of_prefix_length_le inside (List.prefix_append b rel) (le_of_eq depth)).eq_of_length depth

end Paths

section Writes
variable {w w' : World} {call : Call}

/-- A request that succeeds wrote its files. -/
theorem handle_writes (done : w.handle call.actor call.now call.request = .ok w') :
    w'.files = Files.runAll w.files (w.writes call) := by
  obtain ⟨request, actor, now⟩ := call
  rw [World.writes, done]
  cases request with
  | property request => rw [PropertyRequest.frame done]; rfl
  | domain request => rw [DomainRequest.frame done]; rfl
  | asset request => rw [AssetRequest.frame done]; rfl
  | config request => rw [ConfigRequest.frame done]; rfl
  | provider request =>
    cases request with
    | create propertyId request =>
      obtain ⟨store, ok, rfl⟩ := World.keeping_ok done
      rfl
    | move assignmentId target reason =>
      obtain ⟨store, ok, rfl⟩ := World.keeping_ok done
      rfl
    | route propertyId adapterName routeId status =>
      obtain ⟨store, ok, rfl⟩ := World.keeping_ok done
      rfl
    | health propertyId status =>
      obtain ⟨store, ok, rfl⟩ := World.keeping_ok done
      rfl
    | activate assignmentId reason =>
      simp only [World.handle, ProviderRequest.handle, activateProvider, bind_ok, pure_ok] at done
      obtain ⟨-, -, row, there, -, -, rows, -, rfl⟩ := done
      simp only [there, World.advertise]
      rw [Table.get_key (assignment_ok.mp there)]
    | replace propertyId replacementAssignmentId reason =>
      simp only [World.handle, ProviderRequest.handle, replaceProvider, bind_ok, pure_ok] at done
      obtain ⟨-, -, -, -, replacement, there, -, -, rows, -, rfl⟩ := done
      simp only [World.advertise]
      rw [Table.get_key (assignment_ok.mp there)]
  | build request =>
    cases request with
    | build configId environment artifact =>
      simp only [World.handle, BuildRequest.handle, buildSite, bind_ok] at done
      obtain ⟨config, there, prop, owner, -, -, -, -, -, -, done⟩ := done
      simp only [there]
      rw [← Table.get_key (property_ok.mp owner)]
      split at done
      · cases done
        rfl
      · cases done
        rfl
    | review buildId request =>
      obtain ⟨store, ok, rfl⟩ := World.keeping_ok done
      rfl
  | release request =>
    obtain ⟨release, started, -, rfl⟩ := serveRelease_ok done
    simp only [started]

/-! ## Where sites are -/

theorem buildSite_builds {configId : Nat} {environment : BuildEnvironment} {artifact : BuildArtifact}
    (done : buildSite w configId environment artifact = .ok w') :
    w'.store.builds = w.store.builds ∨
      ∃ new, (∃ propertyId, new.outputPath = outputPath propertyId environment artifact.key) ∧
        w'.store.builds = w.store.builds ++ [new] := by
  simp only [buildSite, bind_ok] at done
  obtain ⟨config, -, prop, -, -, -, -, -, -, -, done⟩ := done
  split at done
  · cases done
    exact Or.inl rfl
  · cases done
    exact Or.inr ⟨_, ⟨prop.id, rfl⟩, rfl⟩

theorem Housed.handle (housed : Housed w.store)
    (done : w.handle call.actor call.now call.request = .ok w') : Housed w'.store := by
  obtain ⟨request, actor, now⟩ := call
  have unmoved : w'.store.deployments = w.store.deployments → w'.store.builds = w.store.builds →
      Housed w'.store := by
    intro deployments builds
    exact ⟨deployments ▸ housed.deployments, builds ▸ housed.builds⟩
  cases request with
  | property request =>
    exact unmoved (by rw [PropertyRequest.frame done]) (by rw [PropertyRequest.frame done])
  | domain request =>
    exact unmoved (by rw [DomainRequest.frame done]) (by rw [DomainRequest.frame done])
  | asset request => exact unmoved (by rw [AssetRequest.frame done]) (by rw [AssetRequest.frame done])
  | provider request =>
    exact unmoved (by rw [ProviderRequest.frame done]) (by rw [ProviderRequest.frame done])
  | config request =>
    exact unmoved (by rw [ConfigRequest.frame done]) (by rw [ConfigRequest.frame done])
  | build request =>
    have kept : w'.store.deployments = w.store.deployments := by rw [BuildRequest.frame done]
    cases request with
    | build configId environment artifact =>
      obtain same | ⟨new, ⟨propertyId, output⟩, grown⟩ := buildSite_builds done
      · exact unmoved kept same
      · refine ⟨kept ▸ housed.deployments, fun build member => ?_⟩
        rw [grown, List.mem_append, List.mem_singleton] at member
        obtain member | rfl := member
        · exact housed.builds build member
        · exact ⟨propertyId, environment, artifact.key, output⟩
    | review buildId request =>
      obtain ⟨store, ok, rfl⟩ := World.keeping_ok done
      simp only [reviewCompliance, bind_ok, pure_ok] at ok
      obtain ⟨-, -, -, -, -, -, -, -, rfl⟩ := ok
      exact ⟨housed.deployments, housed.builds⟩
  | release request =>
    have kept : w'.store.builds = w.store.builds := by rw [serveRelease_frame done]
    obtain ⟨release, -, -, rfl⟩ := serveRelease_ok done
    refine ⟨fun d member => ?_, kept ▸ housed.builds⟩
    obtain rfl | ⟨prior, -, old, inside, -, rfl⟩ | ⟨inside, -⟩ := Release.mem_deployments.mp member
    · rw [Release.row_directory, Release.row_propertyId, Release.row_environment]
      exact ⟨_, rfl⟩
    · exact housed.deployments old inside
    · exact housed.deployments d inside

theorem World.Fresh.housed (fresh : w.Fresh) : Housed w.store := by
  constructor <;> simp [fresh.deployments, fresh.builds]

end Writes

end RankRent.Properties
