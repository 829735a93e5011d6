import RankRent.Properties.Writes

/-!
# A release that raises

What is committed stays as it was, but files are written in place: a release
that shares its destination with a live site takes that site down while it runs,
and leaves it so where it raises.
-/

namespace RankRent.Properties
open Checks

/-- The files of a manifest, and no others but the provider configuration. -/
def Holds (tree : Files.Tree) (directory : Files.Path) (manifest : List (Files.Path × String)) : Prop :=
  ∀ rel, rel ≠ ["provider-config.json"] →
    (Files.read tree (directory ++ rel)).map Sha256.hexdigest = manifest.lookup rel

/-- A live site: the files of its build and a provider configuration. -/
structure Intact (tree : Files.Tree) (directory : Files.Path) (manifest : List (Files.Path × String))
    (assignment : Option ProviderAssignment) : Prop where
  holds : Holds tree directory manifest
  config : Files.read tree (configPath directory) = some (providerConfig assignment)

/-- The deployed sites that were intact before are so after. -/
def Survives (s : Store) (before after : Files.Tree) : Prop :=
  ∀ d ∈ s.deployments, d.status = .deployed → ∀ build ∈ s.builds, build.id = d.siteBuildId →
    ∀ assignment, Intact before d.directory build.manifest assignment →
      Intact after d.directory build.manifest assignment

/-! ## Interrupted requests -/

/-- The request raises when it has written `partway`; nothing is committed. -/
def World.interrupted (w : World) (partway : List Files.Op) : World :=
  { w with files := Files.runAll w.files partway }

/-- The release a request opens. -/
def World.opens (w : World) (call : Call) : Option Release :=
  match call.request with
  | .release request => (request.start w.store call.actor).toOption
  | _ => none

/-- A release stops at some write. Files that cannot be copied do not stop a
copy, which raises when it has tried the others. -/
def Partway (w : World) (call : Call) (partway : List Files.Op) : Prop :=
  partway <+: w.writes call ∨
    w.Accepts call ∧ ∃ release ∈ w.opens call, ∃ copied,
      copied.Sublist (Files.copyTree release.build.outputPath release.destination
        (Files.runAll w.files (Files.removeTree release.destination w.files))) ∧
      partway = Files.removeTree release.destination w.files ++ copied

inductive Event
  | served (call : Call)
  | interrupted (call : Call) (partway : List Files.Op)
  | listed (files : Files.Tree)

/-- Requests succeed, fail or are interrupted at any of their writes, and
directories are listed in any order. -/
def Event.step (w : World) (event : Event) (w' : World) : Prop :=
  match event with
  | .served call => w' = w.serve call
  | .interrupted call partway => partway.Sublist (w.writes call) ∧ w' = w.interrupted partway
  | .listed files => files.Perm w.files ∧ w' = { w with files }

abbrev RoughRun : World → World → Prop :=
  Runs.Reaches (fun _ _ => True) Event.step

/-- Where the release goes to the directory of an intact deployed site, it raises
before it removed the first file, or after it wrote the last one and all are as
they were. -/
def RaisesAside (w : World) (call : Call) (partway : List Files.Op) : Prop :=
  ∀ release ∈ w.opens call, ∀ d ∈ w.store.deployments, d.status = .deployed →
    d.directory = release.destination → ∀ build ∈ w.store.builds, build.id = d.siteBuildId →
      ∀ assignment, Intact w.files d.directory build.manifest assignment →
        partway = [] ∨ partway = w.writes call ∧
          Holds w.files release.build.outputPath build.manifest ∧
          providerConfig (activeAssignment w.store.assignments release.propertyId) =
            providerConfig assignment

/-! ## Files in rough runs -/

structure Sited (w : World) : Prop where
  housed : Housed w.store
  unique : (w.files.map Prod.fst).Nodup
  /-- No build has a provider configuration. -/
  plain : ∀ path ∈ w.files.map Prod.fst, path.head? = some "builds" →
    path.getLast? ≠ some "provider-config.json"

section Sited
variable {w w' : World} {call : Call}

theorem siteFiles_last : ∀ rel ∈ siteFiles, ∃ last, rel.getLast? = some last ∧
    last ≠ "provider-config.json" := by
  have ends : ∀ rel ∈ siteFiles, (rel.getLast?.any (· ≠ "provider-config.json")) = true := by decide
  intro rel member
  obtain ⟨last, found, differs⟩ := (Option.any_eq_true _ _).mp (ends rel member)
  exact ⟨last, found, of_decide_eq_true differs⟩

theorem writes_plain (housed : Housed w.store) {path : Files.Path} {text : String}
    (member : .write path text ∈ w.writes call) (builds : path.head? = some "builds") :
    path.getLast? ≠ some "provider-config.json" := by
  obtain ⟨request, actor, now⟩ := call
  rw [World.writes] at member
  cases handled : w.handle actor now request with
  | error e => simp [handled] at member
  | ok w' =>
    -- what is written to a live site is not below the builds
    have elsewhere : ∀ propertyId active,
        .write path text ∉ updateProviderRuntimeConfiguration w.store propertyId active := by
      intro propertyId active inside
      obtain ⟨d, there, at_⟩ := update_path inside
      obtain ⟨sha, home⟩ := housed.deployments d there
      rw [Files.Op.path, home] at at_
      simp [at_, configPath] at builds
    simp only [handled] at member
    cases request with
    | property request | domain request | asset request | config request => cases member
    | provider request =>
      cases request with
      | create | move | route | health => cases member
      | replace propertyId replacementAssignmentId reason => exact absurd member (elsewhere _ _)
      | activate assignmentId reason =>
        cases found : w.store.assignment assignmentId with
        | error e => simp [found] at member
        | ok row =>
          simp only [found] at member
          exact absurd member (elsewhere _ _)
    | build request =>
      cases request with
      | review buildId request => cases member
      | build configId environment artifact =>
        cases found : w.store.config configId with
        | error e => simp [found] at member
        | ok config =>
          simp only [found] at member
          obtain ⟨rel, at_, removes | named⟩ := BuildArtifact.ops_path member
          · cases removes
          · rw [Files.Op.path] at at_
            obtain ⟨last, ends, differs⟩ := siteFiles_last rel named
            rw [at_, List.getLast?_append, ends, Option.some_or]
            exact fun same => differs (Option.some.inj same)
    | release request =>
      cases started : request.start w.store actor with
      | error e => simp [started] at member
      | ok release =>
        simp only [started] at member
        obtain ⟨rel, at_⟩ := ops_path member
        rw [Files.Op.path] at at_
        simp [← at_, Release.destination] at builds

theorem Sited.wrote (sited : Sited w) (housed : Housed w'.store) {ops : List Files.Op}
    (some_ : ops.Sublist (w.writes call)) (files : w'.files = Files.runAll w.files ops) : Sited w' := by
  refine ⟨housed, ?_, fun path member builds => ?_⟩
  · rw [files]
    exact Files.runAll_unique sited.unique ops
  · rw [files] at member
    obtain before | ⟨text, written⟩ := Files.mem_runAll member
    · exact sited.plain path before builds
    · exact writes_plain sited.housed (some_.subset written) builds

theorem Sited.step (sited : Sited w) {event : Event} (step : event.step w w') : Sited w' := by
  cases event with
  | served call =>
    obtain rfl := step
    cases handled : w.handle call.actor call.now call.request with
    | error e =>
      rw [World.serve, handled]
      exact sited
    | ok w' =>
      have served : w.serve call = w' := by rw [World.serve, handled]
      rw [served]
      exact sited.wrote (sited.housed.handle handled) (List.Sublist.refl _) (handle_writes handled)
  | interrupted call partway =>
    obtain ⟨some_, rfl⟩ := step
    exact sited.wrote sited.housed some_ rfl
  | listed files =>
    obtain ⟨perm, rfl⟩ := step
    have paths := perm.map Prod.fst
    exact ⟨sited.housed, paths.nodup_iff.mpr sited.unique, fun path member =>
      sited.plain path (paths.mem_iff.mp member)⟩

theorem World.Fresh.sited (fresh : w.Fresh) : Sited w := by
  refine ⟨fresh.housed, ?_, ?_⟩ <;> simp [fresh.files]

end Sited

/-! ## What a release leaves at its destination -/

section Destination
variable {w : World} {release : Release} {active : Option ProviderAssignment}

/-- The build the release copies is below the builds and has no configuration. -/
structure Sourced (w : World) (release : Release) : Prop where
  unique : (w.files.map Prod.fst).Nodup
  apart : ∀ rel rel', release.destination ++ rel ≠ release.build.outputPath ++ rel'
  plain : Files.read w.files (configPath release.build.outputPath) = none

/-- The files without the destination. -/
def cleared (w : World) (release : Release) : Files.Tree :=
  Files.runAll w.files (Files.removeTree release.destination w.files)

theorem Sourced.read_source (sourced : Sourced w release) {rel : Files.Path} :
    Files.read (cleared w release) (release.build.outputPath ++ rel) =
      Files.read w.files (release.build.outputPath ++ rel) := by
  refine Files.read_untouched fun op member same => ?_
  obtain ⟨rel', rfl, -⟩ := Files.removeTree_path member
  exact sourced.apart rel' rel same

/-- No part of the copy writes a configuration. -/
theorem Sourced.read_config (sourced : Sourced w release) {copied : List Files.Op}
    (some_ : copied.Sublist (Files.copyTree release.build.outputPath release.destination
      (cleared w release))) :
    Files.read (Files.runAll (cleared w release) copied) (configPath release.destination) = none := by
  have absent : Files.read (cleared w release) (configPath release.destination) = none :=
    Files.read_removeTree
  rw [← absent]
  refine Files.read_untouched fun op member same => ?_
  have inside := some_.subset member
  rw [Files.copyTree_eq] at inside
  obtain ⟨rel, named, at_⟩ := Files.writeTree_path inside
  rw [at_, configPath, List.append_cancel_left_eq] at same
  subst same
  have there : Files.read (Files.below release.build.outputPath (cleared w release))
      ["provider-config.json"] ≠ none := fun none => Files.read_none.mp none named
  rw [Files.read_below, sourced.read_source] at there
  exact there sourced.plain

/-- After all its writes the destination holds what the build holds. -/
theorem Sourced.read_all (sourced : Sourced w release) {rel : Files.Path} :
    Files.read (Files.runAll w.files (release.ops w.files active)) (release.destination ++ rel) =
      if rel = ["provider-config.json"] then some (providerConfig active)
      else Files.read w.files (release.build.outputPath ++ rel) := by
  have absent : Files.read (cleared w release) (release.destination ++ rel) = none :=
    Files.read_removeTree
  rw [Release.ops, Release.copyOps, writeProviderRuntimeFile, Files.runAll_append, Files.runAll_append,
    Files.read_writeText, configPath]
  by_cases config : rel = ["provider-config.json"]
  · rw [config, if_pos rfl, if_pos rfl]
  · rw [if_neg fun same => config (List.append_cancel_left same).symm, if_neg config, Files.copyTree_eq,
      Files.read_writeTree (Files.below_unique (Files.runAll_unique sourced.unique _)),
      Files.read_below]
    have source : Files.read (cleared w release) (release.build.outputPath ++ rel) =
        Files.read w.files (release.build.outputPath ++ rel) := sourced.read_source
    rw [cleared] at source absent
    rw [source, absent, Option.or_none]

theorem Sourced.intact_all (sourced : Sourced w release) {manifest : List (Files.Path × String)}
    {assignment : Option ProviderAssignment} :
    Intact (Files.runAll w.files (release.ops w.files active)) release.destination manifest assignment ↔
      Holds w.files release.build.outputPath manifest ∧
        providerConfig active = providerConfig assignment := by
  constructor
  · intro after
    refine ⟨fun rel other => ?_, ?_⟩
    · have holds := after.holds rel other
      rw [sourced.read_all, if_neg other] at holds
      exact holds
    · have config := after.config
      rw [configPath, sourced.read_all, if_pos rfl] at config
      exact Option.some.inj config
  · rintro ⟨holds, config⟩
    refine ⟨fun rel other => ?_, ?_⟩
    · rw [sourced.read_all, if_neg other]
      exact holds rel other
    · rw [configPath, sourced.read_all, if_pos rfl, config]

/-- Where the first removals are all there is, a file is missing. -/
theorem not_intact_removed {d : Files.Path} {manifest : List (Files.Path × String)}
    {assignment : Option ProviderAssignment} {partway : List Files.Op}
    (intact : Intact w.files d manifest assignment) (begun : partway ≠ [])
    (removes : partway <+: Files.removeTree d w.files) :
    ¬ Intact (Files.runAll w.files partway) d manifest assignment := by
  intro after
  obtain ⟨op, rest, rfl⟩ := List.exists_cons_of_ne_nil begun
  obtain ⟨rel, rfl, there⟩ := Files.removeTree_path (removes.subset List.mem_cons_self)
  have gone : Files.read (Files.runAll w.files (.remove (d ++ rel) :: rest)) (d ++ rel) = none := by
    rw [Files.removeTree_eq, List.prefix_iff_eq_take, ← List.map_take] at removes
    rw [removes, Files.read_remove_each, if_pos]
    have first : Files.Op.remove (d ++ rel) ∈ Files.Op.remove (d ++ rel) :: rest := List.mem_cons_self
    rw [removes] at first
    obtain ⟨path, inside, same⟩ := List.mem_map.mp first
    cases same
    exact inside
  by_cases config : rel = ["provider-config.json"]
  · subst config
    have config := after.config
    rw [configPath, gone] at config
    cases config
  · have before := intact.holds rel config
    have now_ := after.holds rel config
    rw [gone, ← before] at now_
    exact there (Option.map_eq_none_iff.mp now_.symm)

/-- A copy without a configuration is not what was there. -/
theorem Sourced.not_intact_copied (sourced : Sourced w release) {manifest : List (Files.Path × String)}
    {assignment : Option ProviderAssignment} {copied : List Files.Op}
    (some_ : copied.Sublist (Files.copyTree release.build.outputPath release.destination
      (cleared w release))) :
    ¬ Intact (Files.runAll w.files (Files.removeTree release.destination w.files ++ copied))
      release.destination manifest assignment := by
  intro after
  have config := after.config
  rw [Files.runAll_append, ← cleared, sourced.read_config some_] at config
  cases config

/-- Between the first removal and the last write the site is not what it was. -/
theorem Sourced.not_intact (sourced : Sourced w release) {manifest : List (Files.Path × String)}
    {assignment : Option ProviderAssignment} {partway : List Files.Op}
    (intact : Intact w.files release.destination manifest assignment) (begun : partway ≠ [])
    (unfinished : partway ≠ release.ops w.files active)
    (some_ : partway <+: release.ops w.files active) :
    ¬ Intact (Files.runAll w.files partway) release.destination manifest assignment := by
  have parts : release.ops w.files active = Files.removeTree release.destination w.files ++
      (Files.copyTree release.build.outputPath release.destination (cleared w release) ++
        Files.writeText (configPath release.destination) (providerConfig active)) := by
    rw [Release.ops, Release.copyOps, List.append_assoc]
    rfl
  rw [parts] at some_ unfinished
  obtain removing | ⟨copying, rfl⟩ :=
    List.prefix_or_prefix_of_prefix some_ (List.prefix_append _ _)
  · exact not_intact_removed intact begun removing
  · rw [List.prefix_append_right_inj] at some_
    obtain copies | ⟨writing, rfl⟩ := List.prefix_or_prefix_of_prefix some_ (List.prefix_append _ _)
    · exact sourced.not_intact_copied copies.sublist
    · rw [List.prefix_append_right_inj] at some_
      obtain ⟨rest, writes⟩ := some_
      rcases writing with _ | ⟨op, _ | ⟨op', _ | ⟨op'', more⟩⟩⟩
      · rw [List.append_nil]
        exact sourced.not_intact_copied (List.Sublist.refl _)
      · -- the configuration is truncated
        obtain rfl : op = .write (configPath release.destination) "" := (List.cons.inj writes).1
        intro after
        have config := after.config
        rw [← List.append_assoc, Files.runAll_append, Files.runAll_cons, Files.runAll, List.foldl_nil,
          Files.read_run] at config
        simp only [Files.Op.path, Files.Op.text, if_true] at config
        exact PyJson.dumps_obj_ne_empty _ (Option.some.inj config).symm
      · cases writes
        exact absurd rfl unfinished
      · have size := congrArg List.length writes
        simp [Files.writeText] at size

end Destination

/-! ## Survival -/

section Survival
variable {w : World} {call : Call} {release : Release} {partway : List Files.Op}

theorem opens_ok (opened : w.opens call = some release) :
    ∃ request, call.request = .release request ∧ request.start w.store call.actor = .ok release := by
  rw [World.opens] at opened
  split at opened
  · rename_i request asks
    cases started : request.start w.store call.actor with
    | error e => simp [started, Except.toOption] at opened
    | ok opened' =>
      simp only [started, Except.toOption, Option.some.injEq] at opened
      exact ⟨request, asks, opened ▸ started⟩
  · cases opened

/-- A release request that is not accepted writes nothing. -/
theorem writes_rejected (rejects : ¬ w.Accepts call) : w.writes call = [] := by
  rw [World.writes]
  split
  · rfl
  · rename_i handled
    exact absurd (by rw [World.Accepts, handled]; rfl) rejects

theorem opens_accepted {request : ReleaseRequest} (asks : call.request = .release request)
    (accepts : w.Accepts call) : ∃ release, w.opens call = some release := by
  obtain ⟨w', handled⟩ := of_isOk accepts
  rw [asks] at handled
  obtain ⟨release, started, -, -⟩ := serveRelease_ok handled
  exact ⟨release, by rw [World.opens, asks]; simp [started, Except.toOption]⟩

theorem writes_accepted (opened : w.opens call = some release) (accepts : w.Accepts call) :
    w.writes call =
      release.ops w.files (activeAssignment w.store.assignments release.propertyId) := by
  obtain ⟨request, asks, started⟩ := opens_ok opened
  obtain ⟨w', handled⟩ := of_isOk accepts
  rw [World.writes, handled, asks]
  simp only [started]

theorem Sited.sourced (sited : Sited w) (opened : w.opens call = some release) : Sourced w release := by
  obtain ⟨request, -, started⟩ := opens_ok opened
  have there : release.build ∈ w.store.builds := by
    obtain ⟨buildId, asked, opened, rfl, rfl, checked⟩ | ⟨propertyId, asked, opened, rfl, rfl, checked⟩ :=
      start_ok started
    · exact Table.get_mem checked.build_found
    · exact Table.get_mem checked.build_found
  obtain ⟨propertyId, environment, key, home⟩ := sited.housed.builds _ there
  refine ⟨sited.unique, fun rel rel' same => ?_, Files.read_none.mpr fun member => ?_⟩
  · rw [home] at same
    simp [Release.destination, outputPath] at same
  · exact sited.plain _ member (by rw [home]; rfl) (by simp [configPath])

/-- Sites elsewhere are not touched. -/
theorem intact_elsewhere {d : Files.Path} (depth : d.length = 4) (elsewhere : d ≠ release.destination)
    {ops : List Files.Op} {active : Option ProviderAssignment}
    (some_ : ops.Sublist (release.ops w.files active)) {manifest : List (Files.Path × String)}
    {assignment : Option ProviderAssignment} (intact : Intact w.files d manifest assignment) :
    Intact (Files.runAll w.files ops) d manifest assignment := by
  have kept : ∀ rel, Files.read (Files.runAll w.files ops) (d ++ rel) = Files.read w.files (d ++ rel) := by
    refine fun rel => Files.read_untouched fun op member same => elsewhere ?_
    have inside := ops_path (some_.subset member)
    rw [same] at inside
    exact (apart_of_depth inside (by rw [depth]; rfl)).symm
  refine ⟨fun rel other => ?_, ?_⟩
  · rw [kept]
    exact intact.holds rel other
  · rw [configPath, kept]
    exact intact.config

theorem Partway.sublist (part : Partway w call partway) : partway.Sublist (w.writes call) := by
  obtain some_ | ⟨accepts, release, opened, copied, some_, rfl⟩ := part
  · exact some_.sublist
  · rw [writes_accepted opened accepts, Release.ops, Release.copyOps]
    exact (some_.append_left _).trans (List.sublist_append_left _ _)

/-- A release that raises leaves the committed rows, and it leaves the live sites
just where it raises aside from them. -/
theorem failed_release_intact {w₀ w : World} (fresh : w₀.Fresh) (run : RoughRun w₀ w) {call : Call}
    {request : ReleaseRequest} (asks : call.request = .release request) {partway : List Files.Op}
    (part : Partway w call partway) :
    (w.interrupted partway).store = w.store ∧
      (Survives w.store w.files (w.interrupted partway).files ↔ RaisesAside w call partway) := by
  refine ⟨rfl, ?_⟩
  have sited : Sited w := run.invariant (fun _ _ _ sited _ step => sited.step step) fresh.sited
  by_cases accepts : w.Accepts call
  · obtain ⟨release, opened⟩ := opens_accepted asks accepts
    have writes := writes_accepted opened accepts
    have sourced := sited.sourced opened
    have split_ := part
    rw [Partway, writes] at split_
    constructor
    · intro survives other opened' d member deployed at_ build there id assignment intact
      obtain rfl : other = release := by
        rw [opened] at opened'
        exact (Option.some.inj opened').symm
      have after := survives d member deployed build there id assignment intact
      rw [at_] at intact after
      obtain some_ | ⟨-, other', opened', copied, some_, rfl⟩ := split_
      · by_cases begun : partway = []
        · exact Or.inl begun
        · refine Or.inr ?_
          rw [writes]
          by_cases finished : partway = other.ops w.files
              (activeAssignment w.store.assignments other.propertyId)
          · rw [World.interrupted, finished] at after
            exact ⟨finished, sourced.intact_all.mp after⟩
          · exact absurd after (sourced.not_intact intact begun finished some_)
      · rw [opened] at opened'
        cases opened'
        exact absurd after (sourced.not_intact_copied some_)
    · intro aside d member deployed build there id assignment intact
      by_cases at_ : d.directory = release.destination
      · obtain rfl | ⟨finished, holds, config⟩ :=
          aside release opened d member deployed at_ build there id assignment intact
        · exact intact
        · rw [World.interrupted, finished, writes, at_]
          exact sourced.intact_all.mpr ⟨holds, config⟩
      · obtain ⟨sha, home⟩ := sited.housed.deployments d member
        have some_ : partway.Sublist (release.ops w.files
            (activeAssignment w.store.assignments release.propertyId)) := writes ▸ part.sublist
        exact intact_elsewhere (by rw [home]; rfl) at_ some_ intact
  · obtain rfl : partway = [] := by
      obtain some_ | ⟨accepted, -⟩ := part
      · rw [writes_rejected accepts] at some_
        exact List.prefix_nil.mp some_
      · exact absurd accepted accepts
    constructor
    · exact fun _ release opened d _ _ _ build _ _ assignment _ => Or.inl rfl
    · exact fun _ d member deployed build there id assignment intact => intact

end Survival

/-! ## The live build, deployed again -/

/-- A run without failures is one. -/
theorem RunsUnder.rough {allowed : World → Call → Prop} {w w' : World} (run : RunsUnder allowed w w') :
    RoughRun w w' :=
  Relation.ReflTransGen.mono (fun _ _ ⟨call, _, served⟩ => ⟨.served call, trivial, served⟩) _ _ run

theorem holds_of_listed {tree : Files.Tree} {directory : Files.Path}
    {manifest : List (Files.Path × String)}
    (there : ∀ rel ∈ manifest.map Prod.fst, rel ∈ (Files.below directory tree).map Prod.fst)
    (listed : ∀ rel ∈ (Files.below directory tree).map Prod.fst,
      (Files.read tree (directory ++ rel)).map Sha256.hexdigest = manifest.lookup rel) :
    Holds tree directory manifest := by
  intro rel _
  by_cases known : rel ∈ (Files.below directory tree).map Prod.fst
  · exact listed rel known
  · have absent : Files.read tree (directory ++ rel) = none := by
      rw [← Files.read_below]
      exact Files.read_none.mpr known
    rw [absent, Option.map_none]
    refine (List.lookup_eq_none_iff.mpr fun entry member => ?_).symm
    simp only [bne_iff_ne, ne_eq]
    rintro rfl
    exact known (there _ (List.mem_map.mpr ⟨entry, member, rfl⟩))

def redeployed : Call := deployed 1 .production 11

theorem siteReady_runs : RoughRun untouched siteReady :=
  have run : RunsUnder (fun _ _ => True) untouched siteReady := Runs.Allowed.reaches
    (by simp [released, property, configured, registered, Runs.Allowed])
  run.rough

theorem siteLive_runs : RoughRun untouched siteLive :=
  siteReady_runs.snoc (a := .served (deployed 1 .production 10)) trivial siteLive_eq

/-- The first deployment left what the build holds. -/
theorem siteLive_intact : ∀ d ∈ siteLive.store.deployments, ∀ build ∈ siteLive.store.builds,
    ∃ assignment, Intact siteLive.files d.directory build.manifest assignment := by
  intro d member build there
  have accepts : siteReady.Accepts (deployed 1 .production 10) := by decide +kernel
  obtain ⟨release, opened⟩ := opens_accepted rfl accepts
  obtain ⟨w', handled⟩ := of_isOk accepts
  have served : siteLive = w' := by rw [siteLive_eq, World.serve, handled]
  have files := handle_writes handled
  rw [← served, writes_accepted opened accepts] at files
  have sited : Sited siteReady :=
    siteReady_runs.invariant (fun _ _ _ sited _ step => sited.step step) untouched_fresh.sited
  have homes : ∀ release ∈ siteReady.opens (deployed 1 .production 10), ∀ d ∈ siteLive.store.deployments,
      d.directory = release.destination ∧
      release.build.outputPath = ["builds", "austin-plumbing", "production", "key-one"] := by
    decide +kernel
  obtain ⟨home, source⟩ := homes release opened d member
  have names : ∀ build ∈ siteLive.store.builds, ∀ rel ∈ build.manifest.map Prod.fst,
      rel ∈ (Files.below ["builds", "austin-plumbing", "production", "key-one"] siteReady.files).map
        Prod.fst := by decide +kernel
  have holds : ∀ build ∈ siteLive.store.builds, ∀ rel ∈ (Files.below
      ["builds", "austin-plumbing", "production", "key-one"] siteReady.files).map Prod.fst,
      (Files.read siteReady.files (["builds", "austin-plumbing", "production", "key-one"] ++ rel)).map
        Sha256.hexdigest = build.manifest.lookup rel := by decide +kernel
  refine ⟨activeAssignment siteReady.store.assignments release.propertyId, ?_⟩
  rw [files, home]
  refine (sited.sourced opened).intact_all.mpr ⟨?_, rfl⟩
  rw [source]
  exact holds_of_listed (names build there) (holds build there)

/-- Deploying the live build again removes the first of its files, and raises. -/
theorem redeployment_breaks_site :
    RoughRun untouched siteLive ∧ ∃ partway, Partway siteLive redeployed partway ∧
      ¬ Survives siteLive.store siteLive.files (siteLive.interrupted partway).files := by
  refine ⟨siteLive_runs, (siteLive.writes redeployed).take 1, Or.inl (List.take_prefix _ _),
    fun survives => ?_⟩
  have accepts : siteLive.Accepts redeployed := by decide +kernel
  obtain ⟨release, opened⟩ := opens_accepted rfl accepts
  have live : ∀ release ∈ siteLive.opens redeployed, ∃ d ∈ siteLive.store.deployments,
      d.status = .deployed ∧ d.directory = release.destination ∧
        ∃ build ∈ siteLive.store.builds, build.id = d.siteBuildId := by decide +kernel
  obtain ⟨d, member, deployed, home, build, there, id⟩ := live release opened
  obtain ⟨assignment, intact⟩ := siteLive_intact d member build there
  have after := survives d member deployed build there id assignment intact
  rw [home] at intact after
  have sited : Sited siteLive :=
    siteLive_runs.invariant (fun _ _ _ sited _ step => sited.step step) untouched_fresh.sited
  have size : 2 ≤ (release.ops siteLive.files
      (activeAssignment siteLive.store.assignments release.propertyId)).length := by
    simp [Release.ops, writeProviderRuntimeFile, Files.writeText]
  simp only [World.interrupted, writes_accepted opened accepts] at after
  refine (sited.sourced opened).not_intact intact ?_ ?_ (List.take_prefix 1 _) after
  · intro empty
    have none := congrArg List.length empty
    rw [List.length_take, List.length_nil] at none
    omega
  · intro all
    have one := congrArg List.length all
    rw [List.length_take] at one
    omega

theorem failed_redeployment :
    (siteLive.interrupted ((siteLive.writes redeployed).take 1)).store = siteLive.store ∧
      (Survives siteLive.store siteLive.files
          (siteLive.interrupted ((siteLive.writes redeployed).take 1)).files ↔
        RaisesAside siteLive redeployed ((siteLive.writes redeployed).take 1)) := by
  have part : Partway siteLive redeployed ((siteLive.writes redeployed).take 1) :=
    Or.inl (List.take_prefix 1 (siteLive.writes redeployed))
  have asks : redeployed.request = .release (.deploy 1
      { environment := .production, operatorConfirmation := true, confirmationReason := "go live" }) := rfl
  exact failed_release_intact untouched_fresh siteLive_runs asks part

end RankRent.Properties
