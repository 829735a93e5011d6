import RankRent.Properties.System

/-!
# Deployment rows

What a release commits: the deployment it found current is rolled back, its own
row becomes the current one of its property and environment, and every other
row stays as it is.
-/

namespace RankRent.Properties
open Leads (nextId nextId_fresh)
open Checks

namespace Release
variable {release : Release} {s : Store} {now : DateTime}

@[simp] theorem row_id : (release.row s now).id = nextId Deployment.id s.deployments := by
  cases release <;> rfl

@[simp] theorem row_propertyId : (release.row s now).propertyId = release.propertyId := by
  cases release <;> rfl

@[simp] theorem row_environment : (release.row s now).environment = release.environment := by
  cases release <;> rfl

@[simp] theorem row_siteBuildId : (release.row s now).siteBuildId = release.build.id := by
  cases release <;> rfl

@[simp] theorem row_status : (release.row s now).status = .deployed := by
  cases release <;> rfl

@[simp] theorem row_localOnly : (release.row s now).localOnly = true := by
  cases release <;> rfl

@[simp] theorem row_previous :
    (release.row s now).previousDeploymentId = release.prior.map Deployment.id := by
  cases release <;> rfl

@[simp] theorem row_directory : (release.row s now).directory = release.destination := by
  have url : (release.row s now).url = release.destination ++ ["index.html"] := by
    cases release <;> rfl
  rw [Deployment.directory, url, List.dropLast_concat]

theorem mem_deployments {d : Deployment} :
    d ∈ release.deployments s now ↔ d = release.row s now ∨
      (∃ prior ∈ release.prior, ∃ old ∈ s.deployments, old.id = prior.id ∧ d = superseded old) ∨
      d ∈ s.deployments ∧ ∀ prior ∈ release.prior, d.id ≠ prior.id := by
  rw [deployments, List.mem_append, List.mem_singleton, or_comm]
  refine or_congr Iff.rfl ?_
  cases release.prior with
  | none => simp
  | some prior => simp [Table.mem_update]

theorem deployments_ids :
    (release.deployments s now).map Deployment.id =
      s.deployments.map Deployment.id ++ [nextId Deployment.id s.deployments] := by
  rw [deployments, List.map_append, List.map_cons, List.map_nil, row_id]
  cases release.prior with
  | none => rfl
  | some prior =>
    have kept : (Table.update Deployment.id s.deployments prior.id superseded).map Deployment.id =
        s.deployments.map Deployment.id := Table.map_update Deployment.id fun _ => rfl
    simp only [kept]

theorem deployments_distinct (unique : (s.deployments.map Deployment.id).Nodup) :
    ((release.deployments s now).map Deployment.id).Nodup := by
  rw [deployments_ids, ← List.concat_eq_append]
  exact unique.concat (nextId_notMem Deployment.id s.deployments)

end Release

/-- A release found the deployment current that was. -/
theorem started_prior {s : Store} {request : ReleaseRequest} {actor : Review.ReviewActor}
    {release : Release} (started : request.start s actor = .ok release) :
    release.prior = currentDeployment s.deployments release.propertyId release.environment := by
  obtain ⟨buildId, asked, opened, rfl, rfl, checked⟩ | ⟨propertyId, asked, opened, rfl, rfl, checked⟩ :=
    start_ok started
  · rw [Release.prior, checked.prior, ← checked.request_eq]
    rfl
  · rw [Release.prior, Release.propertyId, Release.environment, checked.property_eq,
      checked.current_found]

/-- Only a release touches the deployments. -/
theorem deployments_kept {w w' : World} {actor : Review.ReviewActor} {now : DateTime} {request : Request}
    (done : w.handle actor now request = .ok w')
    (other : ∀ asked, request ≠ .release asked) : w'.store.deployments = w.store.deployments := by
  cases request with
  | property request => rw [PropertyRequest.frame done]
  | domain request => rw [DomainRequest.frame done]
  | asset request => rw [AssetRequest.frame done]
  | provider request => rw [ProviderRequest.frame done]
  | config request => rw [ConfigRequest.frame done]
  | build request => rw [BuildRequest.frame done]
  | release request => exact absurd rfl (other request)

theorem currentDeployment_some {rows : List Deployment} {propertyId : String}
    {environment : BuildEnvironment} {d : Deployment}
    (found : currentDeployment rows propertyId environment = some d) :
    d ∈ rows ∧ d.propertyId = propertyId ∧ d.environment = environment ∧ d.status = .deployed := by
  obtain ⟨member, holds, -⟩ := latest_some found
  simp only [Bool.and_eq_true, decide_eq_true_eq] at holds
  exact ⟨member, holds.1.1, holds.1.2, holds.2⟩

section Current
variable {release : Release} {s : Store} {now : DateTime}

/-- What a release commits is current. -/
theorem current_released :
    currentDeployment (release.deployments s now) release.propertyId release.environment =
      some (release.row s now) := by
  have member : release.row s now ∈ release.deployments s now :=
    Release.mem_deployments.mpr (Or.inl rfl)
  obtain ⟨last, found⟩ : ∃ last, currentDeployment (release.deployments s now) release.propertyId
      release.environment = some last := latest_isSome member (by simp)
  obtain ⟨there, -, most⟩ := latest_some found
  have above := most _ member (by simp)
  rw [Release.row_id] at above
  rw [found]
  obtain rfl | ⟨prior, -, old, inside, -, rfl⟩ | ⟨inside, -⟩ := Release.mem_deployments.mp there
  · rfl
  · have := nextId_fresh Deployment.id s.deployments old inside
    have same : (Release.superseded old).id = old.id := rfl
    omega
  · have := nextId_fresh Deployment.id s.deployments last inside
    omega

theorem filter_update {rows : List Deployment} {k : Nat} {f : Deployment → Deployment}
    {p : Deployment → Bool} (out : ∀ row ∈ rows, row.id = k → p row = false)
    (never : ∀ row, p (f row) = false) :
    (Table.update Deployment.id rows k f).filter p = rows.filter p := by
  induction rows with
  | nil => rfl
  | cons row rest ih =>
    have rest_ := ih fun other member => out other (List.mem_cons_of_mem _ member)
    rw [Table.update] at rest_ ⊢
    by_cases same : row.id = k
    · rw [List.map_cons, if_pos same, List.filter_cons_of_neg (by simp [never]),
        List.filter_cons_of_neg (by simp [out row List.mem_cons_self same]), rest_]
    · rw [List.map_cons, if_neg same]
      simp only [List.filter_cons, rest_]

/-- Other properties and environments keep their current deployment. -/
theorem current_other (unique : (s.deployments.map Deployment.id).Nodup)
    (prior : release.prior = currentDeployment s.deployments release.propertyId release.environment)
    {propertyId : String} {environment : BuildEnvironment}
    (differs : ¬ (release.propertyId = propertyId ∧ release.environment = environment)) :
    currentDeployment (release.deployments s now) propertyId environment =
      currentDeployment s.deployments propertyId environment := by
  rw [currentDeployment, currentDeployment, latest, latest, Release.deployments, List.filter_append,
    List.filter_cons_of_neg (by
      simp only [Release.row_propertyId, Release.row_environment, Release.row_status, decide_true,
        Bool.and_true, Bool.and_eq_true, decide_eq_true_eq]
      exact differs), List.filter_nil, List.append_nil]
  cases found : release.prior with
  | none => rfl
  | some old =>
    rw [found] at prior
    obtain ⟨there, property, environment_, -⟩ := currentDeployment_some prior.symm
    refine congrArg _ (filter_update (fun row member same => ?_) fun row => ?_)
    · rw [Table.get_inj unique member there same]
      simp only [Bool.and_eq_false_iff, decide_eq_false_iff_not]
      by_cases one : old.propertyId = propertyId
      · exact Or.inl (Or.inr fun two => differs ⟨property ▸ one, environment_ ▸ two⟩)
      · exact Or.inl (Or.inl one)
    · simp [Release.superseded]

end Current

end RankRent.Properties
