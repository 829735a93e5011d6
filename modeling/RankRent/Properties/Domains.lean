import RankRent.Properties.System

/-!
# The verified domain

A property holds the domain that was verified last. The deployment gate looks at
the verified registration of the highest id, and a production build only at the
property. Of a property its id and its domain matter here.
-/

namespace RankRent.Properties
open Leads (nextId)
open Checks

/-- Each property with its domain. -/
def places (properties : List Property) : List (String × Option String) :=
  properties.map fun row => (row.id, row.domain)

/-- The domain of the property is one of its registrations', now verified. -/
def HasVerifiedDomain (registrations : List DomainRegistration) (place : String × Option String) : Prop :=
  ∃ row ∈ registrations, row.propertyId = place.1 ∧ row.status = .dnsVerified ∧
    place.2 = some row.domain

/-- The gate `domain_and_dns_verified` is open just for properties whose domain
is verified. -/
def GateExact (s : Store) : Prop :=
  ∀ prop ∈ s.properties, domainAndDnsVerified s prop = true ↔
    HasVerifiedDomain s.registrations (prop.id, prop.domain)

/-- `build_site` for production succeeds only for properties whose domain is
verified. -/
def BuildsVerified (w : World) : Prop :=
  ∀ configId artifact w', buildSite w configId .production artifact = .ok w' →
    ∃ config ∈ w.store.configs, config.id = configId ∧ ∃ prop ∈ w.store.properties,
      prop.id = config.propertyId ∧ HasVerifiedDomain w.store.registrations (prop.id, prop.domain)

/-- The registration a request verifies. -/
def Call.verifies (call : Call) : Option Nat :=
  match call.request with
  | .domain (.verify registrationId _) => some registrationId
  | _ => none

/-- The registration a request records. -/
def Call.records (call : Call) : Option Nat :=
  match call.request with
  | .domain (.record registrationId _) => some registrationId
  | _ => none

/-- No later registration of the property is verified when one is. -/
def VerifiesLast (w : World) (call : Call) : Prop :=
  ∀ registrationId ∈ call.verifies, ∀ row ∈ w.store.registrations, row.id = registrationId →
    ∀ other ∈ w.store.registrations, other.propertyId = row.propertyId →
      other.status = .dnsVerified → other.id ≤ row.id

/-- The registration behind the domain of its property is not recorded anew
while it is verified. -/
def KeepsVerified (w : World) (call : Call) : Prop :=
  ∀ registrationId ∈ call.records, ∀ row ∈ w.store.registrations, row.id = registrationId →
    row.status = .dnsVerified → (row.propertyId, some row.domain) ∉ places w.store.properties

instance (w : World) (call : Call) : Decidable (VerifiesLast w call) :=
  inferInstanceAs (Decidable (∀ registrationId ∈ call.verifies, _))

instance (w : World) (call : Call) : Decidable (KeepsVerified w call) :=
  inferInstanceAs (Decidable (∀ registrationId ∈ call.records, _))

/-! ## Invariants -/

/-- What every request keeps. -/
structure DomainsSound (properties : List (String × Option String))
    (registrations : List DomainRegistration) : Prop where
  properties_distinct : (properties.map Prod.fst).Nodup
  distinct : (registrations.map DomainRegistration.id).Nodup
  apart : (registrations.map DomainRegistration.domain).Nodup

/-- The verified registration that a property names is its last verified one. -/
def NamesLast (properties : List (String × Option String)) (registrations : List DomainRegistration) :
    Prop :=
  ∀ place ∈ properties, ∀ row ∈ registrations, row.propertyId = place.1 → row.status = .dnsVerified →
    place.2 = some row.domain → ∀ other ∈ registrations, other.propertyId = place.1 →
      other.status = .dnsVerified → other.id ≤ row.id

/-- What a property names is verified. -/
def NamesVerified (properties : List (String × Option String))
    (registrations : List DomainRegistration) : Prop :=
  ∀ place ∈ properties, place.2.isSome → HasVerifiedDomain registrations place

/-- What a request does to the domains of properties and their registrations. -/
inductive DomainTurn (w : World) (call : Call) (properties : List (String × Option String))
    (registrations : List DomainRegistration) :
    List (String × Option String) → List DomainRegistration → Prop
  | same : DomainTurn w call properties registrations properties registrations
  | newProperty {propertyId : String} (fresh : propertyId ∉ properties.map Prod.fst) :
      DomainTurn w call properties registrations (properties ++ [(propertyId, none)]) registrations
  | purchase {new : DomainRegistration} (id : new.id = nextId DomainRegistration.id registrations)
      (status : new.status = .purchaseApproved) (free : ∀ row ∈ registrations, row.domain ≠ new.domain) :
      DomainTurn w call properties registrations properties (registrations ++ [new])
  | record {row : DomainRegistration} {request : ManualRegistrationRequest} (there : row ∈ registrations)
      (asked : call.records = some row.id) :
      DomainTurn w call properties registrations properties
        (Table.update DomainRegistration.id registrations row.id (.recorded request call.now))
  | verify {row : DomainRegistration} {request : DNSVerificationRequest} (there : row ∈ registrations)
      (asked : call.verifies = some row.id) :
      DomainTurn w call properties registrations
        (Table.update Prod.fst properties row.propertyId fun place => (place.1, some row.domain))
        (Table.update DomainRegistration.id registrations row.id (.verified request call.actor call.now))

section Turns
variable {w w' : World} {call : Call} {properties properties' : List (String × Option String)}
  {registrations registrations' : List DomainRegistration}

theorem DomainsSound.same_domain (sound : DomainsSound properties registrations)
    {a b : DomainRegistration} (inside : a ∈ registrations) (among : b ∈ registrations)
    (same : a.domain = b.domain) : a = b :=
  List.inj_on_of_nodup_map sound.apart inside among same

theorem DomainTurn.sound (turn : DomainTurn w call properties registrations properties' registrations')
    (sound : DomainsSound properties registrations) : DomainsSound properties' registrations' := by
  cases turn with
  | same => exact sound
  | newProperty fresh => exact ⟨Table.keys_snoc sound.properties_distinct fresh, sound.distinct, sound.apart⟩
  | purchase id status free =>
    refine ⟨sound.properties_distinct,
      Table.keys_snoc sound.distinct (id ▸ nextId_notMem DomainRegistration.id registrations),
      Table.keys_snoc sound.apart fun member => ?_⟩
    obtain ⟨row, inside, same⟩ := List.mem_map.mp member
    exact free row inside same
  | record there asked =>
    refine ⟨sound.properties_distinct, ?_, ?_⟩
    · rw [Table.map_update _ (by exact fun _ => rfl)]
      exact sound.distinct
    · rw [Table.map_update _ (by exact fun _ => rfl)]
      exact sound.apart
  | verify there asked =>
    refine ⟨?_, ?_, ?_⟩
    · rw [Table.map_update _ (by exact fun _ => rfl)]
      exact sound.properties_distinct
    · rw [Table.map_update _ (by exact fun _ => rfl)]
      exact sound.distinct
    · rw [Table.map_update _ (by exact fun _ => rfl)]
      exact sound.apart

theorem DomainTurn.namesLast
    (turn : DomainTurn w call (places w.store.properties) w.store.registrations properties' registrations')
    (sound : DomainsSound (places w.store.properties) w.store.registrations) (last : VerifiesLast w call)
    (held : NamesLast (places w.store.properties) w.store.registrations) :
    NamesLast properties' registrations' := by
  cases turn with
  | same => exact held
  | newProperty fresh =>
    intro place member row inside owner verified named
    rw [List.mem_append, List.mem_singleton] at member
    obtain member | rfl := member
    · exact held place member row inside owner verified named
    · cases named
  | purchase id status free =>
    intro place member row inside owner verified named other among property holds
    rw [List.mem_append, List.mem_singleton] at inside among
    obtain inside | rfl := inside
    · obtain among | rfl := among
      · exact held place member row inside owner verified named other among property holds
      · rw [status] at holds
        cases holds
    · rw [status] at verified
      cases verified
  | record there asked =>
    intro place member row inside owner verified named other among property holds
    obtain rfl | ⟨inside, -⟩ := (Table.mem_update_row sound.distinct there).mp inside
    · cases verified
    · obtain rfl | ⟨among, -⟩ := (Table.mem_update_row sound.distinct there).mp among
      · cases holds
      · exact held place member row inside owner verified named other among property holds
  | @verify new request there asked =>
    have latest := last new.id asked new there rfl
    intro place member row inside owner verified named other among property holds
    obtain ⟨old, -, same, rfl⟩ | ⟨member, differs⟩ := Table.mem_update.mp member
    · -- the property names the registration that is verified now
      have self : row.id = new.id := by
        obtain rfl | ⟨inside, -⟩ := (Table.mem_update_row sound.distinct there).mp inside
        · rfl
        · rw [sound.same_domain inside there (Option.some.inj named).symm]
      rw [self]
      obtain rfl | ⟨among, -⟩ := (Table.mem_update_row sound.distinct there).mp among
      · exact Nat.le_refl _
      · exact latest other among (property.trans same) holds
    · obtain rfl | ⟨inside, -⟩ := (Table.mem_update_row sound.distinct there).mp inside
      · exact absurd owner.symm differs
      · obtain rfl | ⟨among, -⟩ := (Table.mem_update_row sound.distinct there).mp among
        · exact absurd property.symm differs
        · exact held place member row inside owner verified named other among property holds

theorem DomainTurn.namesVerified
    (turn : DomainTurn w call (places w.store.properties) w.store.registrations properties' registrations')
    (sound : DomainsSound (places w.store.properties) w.store.registrations) (keeps : KeepsVerified w call)
    (held : NamesVerified (places w.store.properties) w.store.registrations) :
    NamesVerified properties' registrations' := by
  cases turn with
  | same => exact held
  | newProperty fresh =>
    intro place member given
    rw [List.mem_append, List.mem_singleton] at member
    obtain member | rfl := member
    · exact held place member given
    · cases given
  | purchase id status free =>
    intro place member given
    obtain ⟨row, inside, found⟩ := held place member given
    exact ⟨row, List.mem_append_left _ inside, found⟩
  | @record new request there asked =>
    intro place member given
    obtain ⟨row, inside, owner, verified, named⟩ := held place member given
    refine ⟨row, (Table.mem_update_row sound.distinct there).mpr (Or.inr ⟨inside, fun one => ?_⟩), owner, verified, named⟩
    have := Table.get_inj sound.distinct inside there one
    subst this
    refine keeps row.id asked row there rfl verified ?_
    rw [owner, ← named]
    exact member
  | @verify new request there asked =>
    intro place member given
    obtain ⟨old, -, same, rfl⟩ | ⟨member, differs⟩ := Table.mem_update.mp member
    · exact ⟨_, (Table.mem_update_row sound.distinct there).mpr (Or.inl rfl), same.symm, rfl, rfl⟩
    · obtain ⟨row, inside, owner, verified, named⟩ := held place member given
      refine ⟨row, (Table.mem_update_row sound.distinct there).mpr (Or.inr ⟨inside, fun one => ?_⟩), owner, verified, named⟩
      have := Table.get_inj sound.distinct inside there one
      subst this
      exact differs owner.symm

theorem places_kept {change : Property → Property} {propertyId : String} {properties : List Property}
    (id : ∀ row, (change row).id = row.id) (domain : ∀ row, (change row).domain = row.domain) :
    places (Table.update Property.id properties propertyId change) = places properties :=
  Table.map_update _ fun row => by rw [id, domain]

theorem places_named {properties : List Property} {propertyId domain : String} :
    places (Table.update Property.id properties propertyId (.revised (.named domain))) =
      Table.update Prod.fst (places properties) propertyId fun place => (place.1, some domain) := by
  simp only [places, Table.update, List.map_map]
  refine List.map_congr_left fun row _ => ?_
  by_cases same : row.id = propertyId <;> simp [same, Property.named, Property.revised]

theorem domain_turn (done : w.handle call.actor call.now call.request = .ok w') :
    DomainTurn w call (places w.store.properties) w.store.registrations (places w'.store.properties)
      w'.store.registrations := by
  have unmoved : places w'.store.properties = places w.store.properties →
      w'.store.registrations = w.store.registrations →
      DomainTurn w call (places w.store.properties) w.store.registrations (places w'.store.properties)
        w'.store.registrations := by
    intro properties registrations
    rw [properties, registrations]
    exact .same
  obtain ⟨request, actor, now⟩ := call
  cases request with
  | property request =>
    have registrations : w'.store.registrations = w.store.registrations := by
      rw [PropertyRequest.frame done]
    cases request with
    | create opportunityId request =>
      obtain ⟨store, ok, rfl⟩ := World.keeping_ok done
      obtain ⟨row, initial, fresh, properties, -⟩ := createProperty_ok ok
      have grown : places store.properties = places w.store.properties ++ [(row.id, none)] := by
        rw [properties, places, List.map_append, List.map_cons, List.map_nil, initial.domain]
        rfl
      rw [registrations, grown]
      refine .newProperty ?_
      rw [places, List.map_map]
      exact fresh
    | update propertyId request =>
      obtain ⟨store, ok, rfl⟩ := World.keeping_ok done
      obtain ⟨row, -, properties, -⟩ := updateProperty_ok ok
      exact unmoved (by rw [properties]; exact places_kept (fun _ => rfl) fun _ => rfl) registrations
  | domain request =>
    have others : (∀ id r, request ≠ .verify id r) → _ := DomainRequest.frame_unverified done
    cases request with
    | generate propertyId domains =>
      obtain ⟨store, ok, rfl⟩ := World.keeping_ok done
      simp only [generateDomainCandidates, bind_ok, pure_ok] at ok
      obtain ⟨-, -, -, -, rfl⟩ := ok
      exact .same
    | decide candidateId shortlist reason =>
      obtain ⟨store, ok, rfl⟩ := World.keeping_ok done
      simp only [decideDomainCandidate, bind_ok, pure_ok] at ok
      obtain ⟨-, -, -, -, rfl⟩ := ok
      exact .same
    | check candidateId status evidence =>
      obtain ⟨store, ok, rfl⟩ := World.keeping_ok done
      simp only [checkDomainAvailability, bind_ok, pure_ok] at ok
      obtain ⟨-, -, rfl⟩ := ok
      exact .same
    | approvePurchase candidateId explicit reason =>
      obtain ⟨store, ok, rfl⟩ := World.keeping_ok done
      obtain rfl | ⟨new, id, status, free, rfl⟩ := approveDomainPurchase_ok ok
      · exact .same
      · exact .purchase id status free
    | record registrationId request =>
      obtain ⟨store, ok, rfl⟩ := World.keeping_ok done
      obtain ⟨row, rfl, there, rfl⟩ := recordManualRegistration_ok ok
      exact .record (Table.get_mem there) rfl
    | verify registrationId request =>
      obtain ⟨store, ok, rfl⟩ := World.keeping_ok done
      obtain ⟨row, prop, rfl, verifies⟩ := verifyDns_ok ok
      simp only [verifies.properties, verifies.registrations, Store.revise, places_named, verifies.owner]
      exact .verify (Table.get_mem verifies.registration_found) rfl
  | asset request => exact unmoved (by rw [AssetRequest.frame done]) (by rw [AssetRequest.frame done])
  | provider request =>
    exact unmoved (by rw [ProviderRequest.frame done]) (by rw [ProviderRequest.frame done])
  | build request => exact unmoved (by rw [BuildRequest.frame done]) (by rw [BuildRequest.frame done])
  | config request =>
    refine unmoved ?_ (by rw [ConfigRequest.frame done])
    cases request with
    | create propertyId request =>
      obtain ⟨store, ok, rfl⟩ := World.keeping_ok done
      obtain ⟨prop, new, creates⟩ := createSiteConfig_ok ok
      obtain ⟨reason, properties, -⟩ := creates.revised
      rw [properties]
      exact places_kept (fun _ => rfl) fun _ => rfl
    | review configId approved reason =>
      obtain ⟨store, ok, rfl⟩ := World.keeping_ok done
      obtain ⟨row, rfl, -, ⟨rfl, rfl⟩ | ⟨rfl, rfl⟩⟩ := reviewSiteConfig_ok ok
      · exact places_kept (fun _ => rfl) fun _ => rfl
      · rfl
  | release request =>
    refine unmoved ?_ (by rw [serveRelease_frame done])
    obtain ⟨release, -, -, rfl⟩ := serveRelease_ok done
    simp only [Release.commit]
    split
    · exact places_kept (fun _ => rfl) fun _ => rfl
    · rfl

end Turns

/-! ## The gate and the builds -/

theorem mem_places {properties : List Property} {prop : Property} (member : prop ∈ properties) :
    (prop.id, prop.domain) ∈ places properties := List.mem_map.mpr ⟨prop, member, rfl⟩

theorem hasVerifiedDomain_of_gate {s : Store} {prop : Property}
    (opened : domainAndDnsVerified s prop = true) :
    HasVerifiedDomain s.registrations (prop.id, prop.domain) := by
  rw [domainAndDnsVerified] at opened
  split at opened
  · rename_i row found
    obtain ⟨inside, holds, -⟩ := latest_some found
    simp only [Bool.and_eq_true, decide_eq_true_eq] at holds
    exact ⟨row, inside, holds.1, holds.2, of_decide_eq_true opened⟩
  · cases opened

theorem gateExact_of_namesLast {s : Store} (sound : DomainsSound (places s.properties) s.registrations)
    (last : NamesLast (places s.properties) s.registrations) : GateExact s := by
  intro prop member
  constructor
  · exact hasVerifiedDomain_of_gate
  · rintro ⟨row, inside, owner, verified, named⟩
    obtain ⟨found, there⟩ : ∃ found, s.verifiedRegistration prop.id = some found :=
      latest_isSome inside (by simp [owner, verified])
    obtain ⟨among, holds, most⟩ := latest_some there
    simp only [Bool.and_eq_true, decide_eq_true_eq] at holds
    have above := most row inside (by simp [owner, verified])
    have below := last _ (mem_places member) row inside owner verified named found among holds.1 holds.2
    rw [domainAndDnsVerified, there,
      Table.get_inj sound.distinct among inside (le_antisymm below above)]
    exact decide_eq_true named

theorem buildsVerified_of_namesVerified {w : World}
    (verified : NamesVerified (places w.store.properties) w.store.registrations) : BuildsVerified w := by
  intro configId artifact w' done
  simp only [buildSite, bind_ok, config_ok, property_ok, require_ok] at done
  obtain ⟨config, there, prop, owner, -, -, -, domain, -⟩ := done
  refine ⟨config, Table.get_mem there, Table.get_key there, prop, Table.get_mem owner,
    Table.get_key owner, ?_⟩
  exact verified _ (mem_places (Table.get_mem owner)) (domain trivial)

theorem World.Fresh.domains_sound {w : World} (fresh : w.Fresh) :
    DomainsSound (places w.store.properties) w.store.registrations := by
  rw [fresh.properties, fresh.registrations]
  constructor <;> simp [places]

/-- The gate `domain_and_dns_verified` is exact in every run that verifies no
registration before a later verified one of the property; production builds are
made for verified domains only in every run that does not record anew the
verified registration behind a property's domain. -/
theorem verified_domain_exact {w : World} (fresh : w.Fresh) :
    (∀ w', RunsUnder VerifiesLast w w' → GateExact w'.store) ∧
    ∀ w', RunsUnder KeepsVerified w w' → BuildsVerified w' := by
  constructor
  · intro w' run
    have start : NamesLast (places w.store.properties) w.store.registrations := by
      rw [fresh.properties]
      intro place member
      cases member
    obtain ⟨sound, last⟩ := run.invariant
      (I := fun w => DomainsSound (places w.store.properties) w.store.registrations ∧
        NamesLast (places w.store.properties) w.store.registrations)
      (fun w call w' holds last done => ⟨(domain_turn done).sound holds.1,
        (domain_turn done).namesLast holds.1 last holds.2⟩) ⟨fresh.domains_sound, start⟩
    exact gateExact_of_namesLast sound last
  · intro w' run
    have start : NamesVerified (places w.store.properties) w.store.registrations := by
      rw [fresh.properties]
      intro place member
      cases member
    exact buildsVerified_of_namesVerified (run.invariant
      (I := fun w => DomainsSound (places w.store.properties) w.store.registrations ∧
        NamesVerified (places w.store.properties) w.store.registrations)
      (fun w call w' holds keeps done => ⟨(domain_turn done).sound holds.1,
        (domain_turn done).namesVerified holds.1 keeps holds.2⟩) ⟨fresh.domains_sound, start⟩).2

/-! ## Verified out of order, and recorded again -/

/-- Two registrations, the second verified before the first. -/
def verifiedBackwards : List Call :=
  property ++ registered 1 "austinplumbing.com" 2 ++ registered 2 "plumbingaustin.com" 3 ++
    [dnsSeen 2 4, dnsSeen 1 5]

/-- A verified registration is recorded again; a production build still succeeds. -/
def recordedAgain : List Call :=
  property ++ configured 1 2 ++ registered 1 "austinplumbing.com" 3 ++
    [dnsSeen 1 4, ask (.domain (.record 1 ⟨"receipt-2", "manual", [("A", "192.0.2.2")]⟩)) 5]

theorem verified_domains_disagree :
    (RunsUnder (fun _ _ => True) untouched (verifiedBackwards.foldl World.serve untouched) ∧
      ¬ GateExact (verifiedBackwards.foldl World.serve untouched).store) ∧
    RunsUnder (fun _ _ => True) untouched (recordedAgain.foldl World.serve untouched) ∧
      ¬ BuildsVerified (recordedAgain.foldl World.serve untouched) := by
  refine ⟨⟨?_, fun sharp => ?_⟩, ?_, fun verified => ?_⟩
  · exact Runs.Allowed.reaches (by simp [verifiedBackwards, property, registered, Runs.Allowed])
  · have closed : ∀ prop ∈ (verifiedBackwards.foldl World.serve untouched).store.properties,
        domainAndDnsVerified (verifiedBackwards.foldl World.serve untouched).store prop = false := by
      decide +kernel
    have named : ∀ prop ∈ (verifiedBackwards.foldl World.serve untouched).store.properties,
        ∃ row ∈ (verifiedBackwards.foldl World.serve untouched).store.registrations,
          row.propertyId = prop.id ∧ row.status = .dnsVerified ∧ prop.domain = some row.domain := by
      decide +kernel
    obtain ⟨prop, member⟩ : ∃ prop, prop ∈
        (verifiedBackwards.foldl World.serve untouched).store.properties :=
      List.exists_mem_of_length_pos (by decide +kernel)
    have opened := (sharp prop member).mpr (named prop member)
    rw [closed prop member] at opened
    cases opened
  · exact Runs.Allowed.reaches
      (by simp [recordedAgain, property, configured, registered, Runs.Allowed])
  · obtain ⟨w', built⟩ := of_isOk (x := buildSite (recordedAgain.foldl World.serve untouched) 1
      .production (artifact "one")) (by decide +kernel)
    have unverified : ∀ row ∈ (recordedAgain.foldl World.serve untouched).store.registrations,
        row.status ≠ .dnsVerified := by decide +kernel
    obtain ⟨-, -, -, -, -, -, row, inside, -, holds, -⟩ := verified 1 (artifact "one") w' built
    exact unverified row inside holds

/-- Two registrations verified in the order of their ids. -/
def verifiedInOrder : List Call :=
  property ++ configured 1 2 ++ registered 1 "austinplumbing.com" 3 ++
    [dnsSeen 1 4] ++ registered 2 "plumbingaustin.com" 5 ++ [dnsSeen 2 6]

theorem verified_in_order_exact :
    GateExact (verifiedInOrder.foldl World.serve untouched).store ∧
      BuildsVerified (verifiedInOrder.foldl World.serve untouched) := by
  have sharp := verified_domain_exact untouched_fresh
  exact ⟨sharp.1 _ (Runs.Allowed.reaches (by decide +kernel)),
    sharp.2 _ (Runs.Allowed.reaches (by decide +kernel))⟩

end RankRent.Properties
