import RankRent.Properties.Deployments

/-!
# One live deployment

Releases that overlap: each reads the current deployment when it starts, waits
for its adapter, and commits later. Nothing in the database keeps a second
release from superseding the same deployment, so one is current only where no
release commits over another's.
-/

namespace RankRent.Properties
open Leads (nextId nextId_fresh)
open Review (ReviewActor)

/-- The releases under way, and whether the adapter of each is done. -/
structure Ongoing where
  world : World
  releases : List (Release × Bool) := []

inductive Moment
  | served (call : Call)
  | start (request : ReleaseRequest) (actor : ReviewActor)
  | adapter (i : Nat)
  | commit (i : Nat) (now : DateTime)
  | raise (i : Nat)

/-- A release reads, waits for its adapter and commits; it may raise in between.
Other requests, and releases that nothing disturbs, come whole. -/
def Ongoing.next (o : Ongoing) : Moment → Ongoing
  | .served call => { o with world := o.world.serve call }
  | .start request actor => match request.start o.world.store actor with
    | .ok release => { o with releases := o.releases ++ [(release, false)] }
    | .error _ => o
  | .adapter i => match o.releases[i]? with
    | some (release, false) =>
      if release.Indexed o.world.files then
        { world := { o.world with files := Files.runAll o.world.files (release.copyOps o.world.files) }
          releases := o.releases.set i (release, true) }
      else { o with releases := o.releases.eraseIdx i }
    | _ => o
  | .commit i now => match o.releases[i]? with
    | some (release, true) =>
      { world :=
          { store := release.commit o.world.store now
            files := Files.runAll o.world.files (writeProviderRuntimeFile release.destination
              (activeAssignment o.world.store.assignments release.propertyId)) }
        releases := o.releases.eraseIdx i }
    | _ => o
  | .raise i => { o with releases := o.releases.eraseIdx i }

/-- A release commits only while the deployment it found current still is. -/
def StillCurrent (o : Ongoing) : Moment → Prop
  | .commit i _ => ∀ entry ∈ o.releases[i]?, entry.2 = true →
      entry.1.prior = currentDeployment o.world.store.deployments entry.1.propertyId entry.1.environment
  | _ => True

instance (o : Ongoing) : ∀ m, Decidable (StillCurrent o m)
  | .commit i _ => inferInstanceAs (Decidable (∀ entry ∈ o.releases[i]?, entry.2 = true →
      entry.1.prior = currentDeployment o.world.store.deployments entry.1.propertyId entry.1.environment))
  | .served _ | .start _ _ | .adapter _ | .raise _ => inferInstanceAs (Decidable True)

/-- Deployments of one property to one environment. -/
def SameSite (d e : Deployment) : Prop :=
  d.propertyId = e.propertyId ∧ d.environment = e.environment

/-- One deployment of a site is deployed, and each but the first follows one of
the same site, a different one each. -/
structure OneLive (rows : List Deployment) : Prop where
  live : ∀ d ∈ rows, ∀ e ∈ rows, SameSite d e → d.status = .deployed → e.status = .deployed → d = e
  follows : ∀ d ∈ rows, (∃ e ∈ rows, SameSite d e ∧ e.id < d.id) →
    ∃ e ∈ rows, SameSite d e ∧ d.previousDeploymentId = some e.id
  earlier : ∀ d ∈ rows, ∀ k, d.previousDeploymentId = some k →
    ∃ e ∈ rows, SameSite d e ∧ e.id = k ∧ e.id < d.id
  apart : ∀ d ∈ rows, ∀ e ∈ rows, d.previousDeploymentId.isSome →
    d.previousDeploymentId = e.previousDeploymentId → d = e

/-! ## Invariant -/

structure Lined (rows : List Deployment) : Prop where
  distinct : (rows.map Deployment.id).Nodup
  last : ∀ d ∈ rows, d.status = .deployed → ∀ e ∈ rows, SameSite d e → e.id ≤ d.id
  current : ∀ d ∈ rows, ∃ e ∈ rows, SameSite d e ∧ e.status = .deployed
  first : ∀ d ∈ rows, d.previousDeploymentId = none → ∀ e ∈ rows, SameSite d e → d.id ≤ e.id
  linked : ∀ d ∈ rows, ∀ k, d.previousDeploymentId = some k →
    ∃ e ∈ rows, SameSite d e ∧ e.id = k ∧ e.id < d.id ∧ e.status ≠ .deployed
  apart : ∀ d ∈ rows, ∀ e ∈ rows, ∀ k, d.previousDeploymentId = some k →
    e.previousDeploymentId = some k → d.id = e.id

namespace SameSite
variable {d e f : Deployment}

theorem symm (same : SameSite d e) : SameSite e d := ⟨same.1.symm, same.2.symm⟩

theorem trans (same : SameSite d e) (next : SameSite e f) : SameSite d f :=
  ⟨same.1.trans next.1, same.2.trans next.2⟩

end SameSite

theorem Lined.oneLive {rows : List Deployment} (lined : Lined rows) : OneLive rows := by
  constructor
  · intro d first e second same deployed live
    have below := lined.last e second live d first same.symm
    have above := lined.last d first deployed e second same
    exact Table.get_inj lined.distinct first second (by omega)
  · rintro d member ⟨e, there, same, before⟩
    cases previous : d.previousDeploymentId with
    | none =>
      have := lined.first d member previous e there same
      omega
    | some k =>
      obtain ⟨f, inside, site, rfl, -⟩ := lined.linked d member k previous
      exact ⟨f, inside, site, rfl⟩
  · intro d member k previous
    obtain ⟨e, there, same, id, before, -⟩ := lined.linked d member k previous
    exact ⟨e, there, same, id, before⟩
  · intro d first e second linked same
    obtain ⟨k, previous⟩ := Option.isSome_iff_exists.mp linked
    exact Table.get_inj lined.distinct first second
      (lined.apart d first e second k previous (same ▸ previous))

section Commits
variable {release : Release} {s : Store} {now : DateTime}

/-- What each row was before the release. -/
theorem row_was {d : Deployment} (member : d ∈ release.deployments s now) :
    d = release.row s now ∨ ∃ old ∈ s.deployments, old.id = d.id ∧ SameSite old d ∧
      old.previousDeploymentId = d.previousDeploymentId ∧
      (d.status = .deployed → old.status = .deployed ∧ ∀ prior ∈ release.prior, old.id ≠ prior.id) := by
  obtain rfl | ⟨prior, -, old, inside, -, rfl⟩ | ⟨inside, differs⟩ := Release.mem_deployments.mp member
  · exact Or.inl rfl
  · exact Or.inr ⟨old, inside, rfl, ⟨rfl, rfl⟩, rfl, fun deployed => by cases deployed⟩
  · exact Or.inr ⟨d, inside, rfl, ⟨rfl, rfl⟩, rfl, fun deployed => ⟨deployed, differs⟩⟩

variable (release now) in
/-- What becomes of each row. -/
theorem row_becomes {old : Deployment} (member : old ∈ s.deployments) :
    ∃ d ∈ release.deployments s now, d.id = old.id ∧ SameSite old d ∧
      ((∃ prior ∈ release.prior, old.id = prior.id) ∧ d.status ≠ .deployed ∨
        (∀ prior ∈ release.prior, old.id ≠ prior.id) ∧ d = old) := by
  by_cases ends : ∃ prior ∈ release.prior, old.id = prior.id
  · obtain ⟨prior, found, same⟩ := ends
    refine ⟨Release.superseded old, Release.mem_deployments.mpr (Or.inr (Or.inl ⟨prior, found, old,
      member, same, rfl⟩)), rfl, ⟨rfl, rfl⟩, Or.inl ⟨⟨prior, found, same⟩, ?_⟩⟩
    simp [Release.superseded]
  · have kept : ∀ prior ∈ release.prior, old.id ≠ prior.id := fun prior found same => ends ⟨prior, found, same⟩
    exact ⟨old, Release.mem_deployments.mpr (Or.inr (Or.inr ⟨member, kept⟩)), rfl, ⟨rfl, rfl⟩,
      Or.inr ⟨kept, rfl⟩⟩

theorem Lined.commit (lined : Lined s.deployments)
    (prior : release.prior = currentDeployment s.deployments release.propertyId release.environment) :
    Lined (release.deployments s now) := by
  have newest : ∀ old ∈ s.deployments, old.id < (release.row s now).id := by
    intro old member
    rw [Release.row_id]
    exact nextId_fresh Deployment.id s.deployments old member
  -- a row of the site of the release: the deployment it found current is deployed then
  have found : ∀ old ∈ s.deployments, SameSite old (release.row s now) →
      ∃ last ∈ release.prior, last ∈ s.deployments ∧ SameSite last (release.row s now) ∧
        last.status = .deployed := by
    intro old member same
    obtain ⟨e, there, site, deployed⟩ := lined.current old member
    have site := site.symm.trans same
    rw [SameSite, Release.row_propertyId, Release.row_environment] at site
    obtain ⟨last, current⟩ : ∃ last, currentDeployment s.deployments release.propertyId
        release.environment = some last := latest_isSome there (by simp [site, deployed])
    obtain ⟨inside, property, environment, live⟩ := currentDeployment_some current
    refine ⟨last, prior.trans current, inside, ?_, live⟩
    rw [SameSite, Release.row_propertyId, Release.row_environment]
    exact ⟨property, environment⟩
  have ended : ∀ last ∈ release.prior, last ∈ s.deployments ∧ SameSite last (release.row s now) ∧
      last.status = .deployed := by
    intro last known
    rw [prior] at known
    obtain ⟨inside, property, environment, live⟩ := currentDeployment_some known
    refine ⟨inside, ?_, live⟩
    rw [SameSite, Release.row_propertyId, Release.row_environment]
    exact ⟨property, environment⟩
  constructor
  · exact Release.deployments_distinct lined.distinct
  · intro d first deployed e second same
    obtain rfl | ⟨old, inside, id, site, -, was⟩ := row_was first
    · obtain rfl | ⟨other, among, id, -⟩ := row_was second
      · exact le_rfl
      · exact id ▸ (newest other among).le
    · obtain ⟨live, differs⟩ := was deployed
      obtain rfl | ⟨other, among, id', site', -⟩ := row_was second
      · -- the deployed row of the site would be the one found current
        obtain ⟨last, known, there, owner, status⟩ := found old inside (site.trans same)
        have below := lined.last old inside live last there ((site.trans same).trans owner.symm)
        have above := lined.last last there status old inside (owner.trans (site.trans same).symm)
        exact absurd (by omega) (differs last known)
      · have := lined.last old inside live other among ((site.trans same).trans site'.symm)
        omega
  · intro d member
    obtain rfl | ⟨old, inside, -, site, -⟩ := row_was member
    · exact ⟨_, member, ⟨rfl, rfl⟩, Release.row_status⟩
    · by_cases same : SameSite d (release.row s now)
      · exact ⟨_, Release.mem_deployments.mpr (Or.inl rfl), same, Release.row_status⟩
      · obtain ⟨e, there, owner, deployed⟩ := lined.current old inside
        obtain ⟨e', among, -, site', ⟨⟨last, known, id⟩, -⟩ | ⟨-, rfl⟩⟩ :=
          row_becomes release now there
        · obtain ⟨within, owner', -⟩ := ended last known
          obtain rfl := Table.get_inj lined.distinct there within id
          exact absurd ((site.symm.trans owner).trans owner') same
        · exact ⟨e', among, site.symm.trans owner, deployed⟩
  · intro d member none e there same
    obtain rfl | ⟨old, inside, id, site, previous, -⟩ := row_was member
    · obtain rfl | ⟨other, among, -, site, -⟩ := row_was there
      · exact le_rfl
      · obtain ⟨last, known, -⟩ := found other among (site.trans same.symm)
        rw [Release.row_previous, known] at none
        cases none
    · obtain rfl | ⟨other, among, id', site', -⟩ := row_was there
      · exact (id ▸ newest old inside).le
      · have := lined.first old inside (previous.trans none) other among
          ((site.trans same).trans site'.symm)
        omega
  · intro d member k linked
    obtain rfl | ⟨old, inside, id, site, previous, -⟩ := row_was member
    · rw [Release.row_previous, Option.map_eq_some_iff] at linked
      obtain ⟨last, known, rfl⟩ := linked
      obtain ⟨within, owner, -⟩ := ended last known
      obtain ⟨e, there, same, site, ⟨-, gone⟩ | ⟨differs, -⟩⟩ :=
        row_becomes release now within
      · exact ⟨e, there, owner.symm.trans site, same, same ▸ newest last within, gone⟩
      · exact absurd rfl (differs last known)
    · obtain ⟨e, there, owner, rfl, before, gone⟩ := lined.linked old inside k (previous.trans linked)
      obtain ⟨e', among, same, site', status⟩ := row_becomes release now there
      refine ⟨e', among, (site.symm.trans owner).trans site', same, by omega, ?_⟩
      obtain ⟨-, ended⟩ | ⟨-, rfl⟩ := status
      · exact ended
      · exact gone
  · -- nobody but the new row follows the deployment that was current
    have alone : ∀ old ∈ s.deployments, ∀ last ∈ release.prior,
        old.previousDeploymentId ≠ some last.id := by
      intro old inside last known follows
      obtain ⟨within, -, live⟩ := ended last known
      obtain ⟨e, there, -, id, -, gone⟩ := lined.linked old inside last.id follows
      obtain rfl := Table.get_inj lined.distinct there within id
      exact gone live
    intro d first e second k linked linked'
    obtain rfl | ⟨old, inside, id, -, previous, -⟩ := row_was first
    · obtain rfl | ⟨other, among, -, -, previous', -⟩ := row_was second
      · rfl
      · rw [Release.row_previous, Option.map_eq_some_iff] at linked
        obtain ⟨last, known, rfl⟩ := linked
        exact absurd (previous'.trans linked') (alone other among last known)
    · obtain rfl | ⟨other, among, id', -, previous', -⟩ := row_was second
      · rw [Release.row_previous, Option.map_eq_some_iff] at linked'
        obtain ⟨last, known, rfl⟩ := linked'
        exact absurd (previous.trans linked) (alone old inside last known)
      · rw [← id, ← id']
        exact lined.apart old inside other among k (previous.trans linked) (previous'.trans linked')

theorem Lined.handle {w w' : World} {call : Call} (lined : Lined w.store.deployments)
    (done : w.handle call.actor call.now call.request = .ok w') : Lined w'.store.deployments := by
  by_cases asks : ∃ asked, call.request = .release asked
  · obtain ⟨asked, asks⟩ := asks
    rw [asks] at done
    obtain ⟨release, started, -, rfl⟩ := serveRelease_ok done
    exact lined.commit (started_prior started)
  · rw [deployments_kept done fun asked same => asks ⟨asked, same⟩]
    exact lined

theorem Lined.next {o : Ongoing} {m : Moment} (lined : Lined o.world.store.deployments)
    (still : StillCurrent o m) : Lined (o.next m).world.store.deployments := by
  cases m with
  | served call =>
    simp only [Ongoing.next, World.serve]
    split
    · rename_i handled
      exact lined.handle handled
    · exact lined
  | start request actor =>
    simp only [Ongoing.next]
    split <;> exact lined
  | adapter i =>
    simp only [Ongoing.next]
    split
    · split <;> exact lined
    · exact lined
  | commit i now =>
    simp only [Ongoing.next]
    split
    · rename_i release found
      exact lined.commit (still _ found rfl)
    · exact lined
  | raise i => exact lined

end Commits

/-- However releases overlap, one deployment of each site is deployed and the
deployments of the site follow each other in one chain, as long as each release
commits while the deployment it found current still is. -/
theorem one_live_deployment {w : World} (fresh : w.Fresh) {o : Ongoing}
    (run : Runs.Reaches StillCurrent (fun o m o' => o' = o.next m) { world := w } o) :
    OneLive o.world.store.deployments := by
  have start : Lined w.store.deployments := by
    rw [fresh.deployments]
    constructor <;> simp
  have kept : ∀ o m o', Lined o.world.store.deployments → StillCurrent o m → o' = Ongoing.next o m →
      Lined o'.world.store.deployments := by
    rintro o m _ lined still rfl
    exact lined.next still
  exact (run.invariant (I := fun o => Lined o.world.store.deployments) kept start).oneLive

/-! ## Two releases at once -/

def goLive : Moment :=
  .start (.deploy 1
    { environment := .production, operatorConfirmation := true, confirmationReason := "go live" })
    ⟨"admin-1", .admin⟩

/-- Two deployments start before either commits. -/
def overlapping : List Moment :=
  released.dropLast.map .served ++
    [goLive, goLive, .adapter 0, .adapter 1, .commit 0 10, .commit 0 11]

/-- Both are deployed, and neither follows the other. -/
theorem overlapping_both_live :
    Runs.Reaches (fun _ _ => True) (fun o m o' => o' = Ongoing.next o m) { world := untouched }
        (overlapping.foldl Ongoing.next { world := untouched }) ∧
      (overlapping.foldl Ongoing.next { world := untouched }).releases = [] ∧
      ¬ OneLive (overlapping.foldl Ongoing.next { world := untouched }).world.store.deployments := by
  refine ⟨?_, ?_, fun one => ?_⟩
  · exact Runs.Allowed.reaches
      (by simp [overlapping, released, property, configured, registered, Runs.Allowed])
  · exact List.isEmpty_iff.mp (by decide +kernel)
  · have both : ∃ d ∈ (overlapping.foldl Ongoing.next { world := untouched }).world.store.deployments,
        ∃ e ∈ (overlapping.foldl Ongoing.next { world := untouched }).world.store.deployments,
          (d.propertyId = e.propertyId ∧ d.environment = e.environment) ∧ d.status = .deployed ∧
            e.status = .deployed ∧ d.id ≠ e.id := by decide +kernel
    obtain ⟨d, first, e, second, same, deployed, live, differs⟩ := both
    exact differs (congrArg Deployment.id (one.live d first e second same deployed live))

/-- One after the other is current. -/
def inTurn : List Moment :=
  released.dropLast.map .served ++
    [goLive, .adapter 0, .commit 0 10, goLive, .adapter 0, .commit 0 11]

theorem in_turn_one_live :
    OneLive (inTurn.foldl Ongoing.next { world := untouched }).world.store.deployments :=
  one_live_deployment untouched_fresh (Runs.Allowed.reaches (by decide +kernel))

end RankRent.Properties
