import RankRent.Properties.DomainNames
import RankRent.Properties.Workflow

/-!
# Domain candidates

`DomainGenerationRequest` and `generate_domain_candidates` of
`property_workflow`: the domains that a property is offered, and the rows of the
candidates among them.
-/

namespace RankRent.Properties
open Catalog (FieldError)
open Checks
open Leads (nextId)

/-- `[a-z]{2,12}`. -/
def isTld (text : String) : Bool :=
  2 ≤ text.length && text.length ≤ 12 && text.toList.all fun c => 'a' ≤ c && c ≤ 'z'

/-- An accepted `DomainGenerationRequest`. -/
structure DomainGenerationRequest where
  limit : Nat
  tlds : List String
  limit_range : 1 ≤ limit ∧ limit ≤ 20
  each_tld : ∀ tld ∈ tlds, isTld tld
  distinct : tlds.Nodup

/-- `value.strip().lower().lstrip(".")`. -/
def tldItem (lower : String → String) (value : String) : String :=
  String.ofList ((lower (PyString.strip value)).toList.dropWhile (· = '.'))

theorem nodup_eraseDups (values : List String) : values.eraseDups.Nodup := by
  induction size : values.length using Nat.strong_induction_on generalizing values with
  | _ size ih =>
    cases values with
    | nil => simp
    | cons value values =>
      rw [List.eraseDups_cons, List.nodup_cons, List.mem_eraseDups]
      constructor
      · simp
      · apply ih _ _ _ rfl
        rw [← size, List.length_cons]
        exact Nat.lt_succ_of_le (List.length_filter_le _ _)

/-- `DomainGenerationRequest.model_validate`. -/
def DomainGenerationRequest.validate (lower : String → String) (limit : ℤ := 6)
    (tlds : List String := ["com"]) : Except FieldError DomainGenerationRequest :=
  let items := (tlds.map (tldItem lower)).eraseDups
  if range : 1 ≤ limit ∧ limit ≤ 20 then
    if each : ∀ tld ∈ items, isTld tld then
      .ok ⟨limit.toNat, items, by omega, each, nodup_eraseDups _⟩
    else .error ⟨"tlds", "TLDs must contain only letters."⟩
  else .error ⟨"limit", if limit < 1 then "Input should be greater than or equal to 1"
    else "Input should be less than or equal to 20"⟩

/-- What the opportunity of a property gives its names: the service, and the
cities and the name of the market. -/
structure ListedOpportunity where
  serviceName : String
  cities : List String
  marketName : String

/-- `(market.cities or [market.display_name.split(",")[0]])[0]`. -/
def ListedOpportunity.city (o : ListedOpportunity) : String :=
  o.cities.head?.getD (String.ofList (o.marketName.toList.takeWhile (· ≠ ',')))

section
variable (lower : String → String)

/-- The domains of a brand. -/
def domainsFor (brand : String) (o : ListedOpportunity) (request : DomainGenerationRequest) :
    List String :=
  candidateDomains (slug lower brand) (slug lower o.serviceName) (slug lower o.city) request.tlds
    request.limit

/-- The row of a candidate. -/
def candidateRow (candidates : List DomainCandidate) (propertyId domain : String) :
    Option DomainCandidate :=
  candidates.find? fun row => row.propertyId = propertyId && row.domain = domain

/-- `generate_domain_candidates` with what it returns. -/
def offerDomains (s : Store) (propertyId : String) (o : ListedOpportunity)
    (request : DomainGenerationRequest) : Except WorkflowError (Store × List DomainCandidate) := do
  let row ← s.property propertyId
  let domains := domainsFor lower row.neutralBrand o request
  let after ← generateDomainCandidates s propertyId domains
  return (after, domains.filterMap (candidateRow after.candidates propertyId))

end

/-! ## What is offered -/

/-- The rows of new candidates stand behind those there were. -/
theorem addCandidates_extends (propertyId : String) (missing : List String) (rows : List DomainCandidate) :
    rows <+: missing.foldl (fun rows domain =>
      rows ++ [{ id := nextId DomainCandidate.id rows, propertyId, domain }]) rows := by
  induction missing generalizing rows with
  | nil => exact List.prefix_rfl
  | cons domain missing ih => exact (List.prefix_append _ _).trans (ih _)

theorem addCandidates_mem (propertyId : String) {missing : List String} (rows : List DomainCandidate) :
    ∀ domain ∈ missing, ∃ row ∈ missing.foldl (fun rows domain =>
      rows ++ [{ id := nextId DomainCandidate.id rows, propertyId, domain }]) rows,
      row.propertyId = propertyId ∧ row.domain = domain := by
  induction missing generalizing rows with
  | nil => simp
  | cons first missing ih =>
    intro domain member
    obtain rfl | later := List.mem_cons.mp member
    · refine ⟨_, (addCandidates_extends propertyId missing _).subset (List.mem_append_right _
        (List.mem_singleton_self _)), rfl, rfl⟩
    · exact ih _ domain later

theorem candidateRow_some {candidates : List DomainCandidate} {propertyId domain : String}
    {row : DomainCandidate} (found : candidateRow candidates propertyId domain = some row) :
    row ∈ candidates ∧ row.propertyId = propertyId ∧ row.domain = domain := by
  have holds := List.find?_some found
  simp only [Bool.and_eq_true, decide_eq_true_eq] at holds
  exact ⟨List.mem_of_find?_eq_some found, holds⟩

/-- When every domain has a row, the rows of the domains are one for each, in order. -/
theorem domains_of_rows {candidates : List DomainCandidate} {propertyId : String} {domains : List String}
    (each : ∀ domain ∈ domains, ∃ row ∈ candidates, row.propertyId = propertyId ∧ row.domain = domain) :
    (domains.filterMap (candidateRow candidates propertyId)).map DomainCandidate.domain = domains := by
  induction domains with
  | nil => rfl
  | cons domain domains ih =>
    obtain ⟨⟨row, member, owner, same⟩, rest⟩ := List.forall_mem_cons.mp each
    cases found : candidateRow candidates propertyId domain with
    | none =>
      have := List.find?_eq_none.mp found row member
      simp [owner, same] at this
    | some first =>
      rw [List.filterMap_cons_some found, List.map_cons, ih rest, (candidateRow_some found).2.2]

section Generate
variable {s after : Store} {propertyId : String} {domains : List String}

/-- Domains that all have a row are offered without a new one. -/
theorem generateDomainCandidates_known {row : Property} (there : s.property propertyId = .ok row)
    (each : ∀ domain ∈ domains, ∃ row ∈ s.candidates, row.propertyId = propertyId ∧ row.domain = domain) :
    generateDomainCandidates s propertyId domains = .ok s := by
  have none_ : (domains.filter fun domain =>
      !s.candidates.any fun row => row.propertyId = propertyId && row.domain = domain) = [] := by
    rw [List.filter_eq_nil_iff]
    intro domain member
    obtain ⟨row, inside, owner, same⟩ := each domain member
    simp only [Bool.not_eq_true', Bool.not_eq_false, List.any_eq_true]
    exact ⟨row, inside, by simp [owner, same]⟩
  rw [generateDomainCandidates, there]
  simp only [none_]
  rfl

/-- With or without a row before: each domain has one afterwards. -/
theorem generateDomainCandidates_ok (done : generateDomainCandidates s propertyId domains = .ok after) :
    s.candidates <+: after.candidates ∧ after = { s with candidates := after.candidates } ∧
      ∀ domain ∈ domains, ∃ row ∈ after.candidates, row.propertyId = propertyId ∧ row.domain = domain := by
  simp only [generateDomainCandidates, bind_ok, require_ok, pure_ok] at done
  obtain ⟨row, there, -, -, rfl⟩ := done
  refine ⟨addCandidates_extends _ _ _, rfl, ?_⟩
  intro domain member
  by_cases known : ∃ row ∈ s.candidates, row.propertyId = propertyId ∧ row.domain = domain
  · obtain ⟨row, inside, same⟩ := known
    exact ⟨row, (addCandidates_extends _ _ _).subset inside, same⟩
  · apply addCandidates_mem
    rw [List.mem_filter]
    refine ⟨member, ?_⟩
    simpa [not_exists] using known

/-- Domains that differ violate no constraint. -/
theorem generateDomainCandidates_distinct {row : Property} (there : s.property propertyId = .ok row)
    (distinct : domains.Nodup) : ∃ after, generateDomainCandidates s propertyId domains = .ok after := by
  rw [generateDomainCandidates, there]
  simp only [require, if_pos (distinct.filter _)]
  exact ⟨_, rfl⟩

end Generate

section Offer
variable {lower : String → String} {s after : Store} {propertyId : String} {o : ListedOpportunity}
  {request : DomainGenerationRequest} {result : List DomainCandidate} {row : Property}

theorem offerDomains_ok (there : s.property propertyId = .ok row)
    (done : offerDomains lower s propertyId o request = .ok (after, result)) :
    result.map DomainCandidate.domain = domainsFor lower row.neutralBrand o request ∧
      s.candidates <+: after.candidates ∧
      offerDomains lower after propertyId o request = .ok (after, result) := by
  simp only [offerDomains, bind_ok, pure_ok] at done
  obtain ⟨found, same, store, generated, written⟩ := done
  rw [there] at same
  cases same
  cases written
  obtain ⟨kept, rest, each⟩ := generateDomainCandidates_ok generated
  refine ⟨domains_of_rows each, kept, ?_⟩
  have still : after.property propertyId = .ok row := by
    rw [rest]
    exact there
  exact bind_ok.mpr ⟨row, still, bind_ok.mpr ⟨after, generateDomainCandidates_known still each, rfl⟩⟩

theorem offerDomains_distinct (there : s.property propertyId = .ok row)
    (distinct : (domainsFor lower row.neutralBrand o request).Nodup) :
    ∃ after result, offerDomains lower s propertyId o request = .ok (after, result) := by
  obtain ⟨after, generated⟩ := generateDomainCandidates_distinct there distinct
  exact ⟨after, _, bind_ok.mpr ⟨row, there, bind_ok.mpr ⟨after, generated, rfl⟩⟩⟩

end Offer

/-! ## When the offer is one of hosts -/

section Hosts
variable {brand service city : String}

/-- Letters, digits and hyphens. -/
def LabelText (s : String) : Prop := ∀ c ∈ s.toList, isLabelChar c

instance (s : String) : Decidable (LabelText s) := inferInstanceAs (Decidable (∀ c ∈ s.toList, isLabelChar c))

theorem LabelText.append {s t : String} (first : LabelText s) (second : LabelText t) : LabelText (s ++ t) := by
  intro c member
  rw [String.toList_append, List.mem_append] at member
  obtain member | member := member
  · exact first c member
  · exact second c member

theorem stems_chars (edged : Edged brand.toList) (edged_service : Edged service.toList)
    (edged_city : Edged city.toList) : ∀ stem ∈ stems brand service city, LabelText stem := by
  have own : LabelText brand := edged.chars
  have second : LabelText service := edged_service.chars
  have first : LabelText city := edged_city.chars
  have hyphen : LabelText "-" := List.all_eq_true.mp (by decide)
  have help : LabelText "-help-" := List.all_eq_true.mp (by decide)
  have straight := (first.append hyphen).append second
  simp only [stems, List.forall_mem_cons, List.not_mem_nil, false_implies, implies_true, and_true]
  exact ⟨own, straight, (second.append hyphen).append first, straight.append (List.all_eq_true.mp (by decide)),
    (second.append help).append first, first.append (List.all_eq_true.mp (by decide))⟩

theorem isLabel_tld {tld : String} (accepted : isTld tld) : isLabel tld.toList = true := by
  simp only [isTld, Bool.and_eq_true, decide_eq_true_eq, List.all_eq_true] at accepted
  obtain ⟨⟨long, short⟩, letters⟩ := accepted
  have no_hyphen : '-' ∉ tld.toList := fun member => absurd (letters _ member) (by decide)
  rw [isLabel_iff]
  refine ⟨⟨fun c member => ?_, fun head => no_hyphen (List.mem_of_head? head),
    fun last => no_hyphen (List.mem_of_getLast? last)⟩, ?_, ?_⟩
  · apply isLabelChar_of_lower
    have letter := letters c member
    simp only [Catalog.isLowerAlnum, Bool.or_eq_true, Bool.and_eq_true, decide_eq_true_eq]
    exact Or.inl letter
  · rw [ne_empty]
    rintro rfl
    exact absurd long (by decide)
  · rw [String.length_toList]
    omega

theorem no_dot {s : String} (chars : LabelText s) : ∀ c ∈ s.toList, (decide (c = '.')) = false := by
  intro c member
  have := chars c member
  rw [decide_eq_false_iff_not]
  rintro rfl
  exact absurd this (by decide)

/-- Under a TLD a stem is a host name when it is a label. -/
theorem isHostName_under {stem tld : String} (chars : LabelText stem) (accepted : isTld tld) :
    isHostName (stem ++ "." ++ tld) = true ↔ isLabel stem.toList = true := by
  have label := isLabel_tld accepted
  have split : (stem ++ "." ++ tld).toList.splitOnP (· = '.') = [stem.toList, tld.toList] := by
    rw [String.toList_append, String.toList_append, List.append_assoc]
    change List.splitOnP _ (stem.toList ++ '.' :: tld.toList) = _
    rw [List.splitOnP_append_cons _ _ (by decide), List.splitOnP_eq_singleton (no_dot chars),
      List.splitOnP_eq_singleton (no_dot (isLabel_iff.mp label).1.chars)]
    rfl
  rw [isHostName, split]
  simp only [List.all_cons, List.all_nil, label, Bool.and_true, Bool.and_eq_true, decide_eq_true_eq,
    and_iff_right_iff_imp]
  intro stem_label
  have short := (isLabel_iff.mp stem_label).2.2
  have tld_short := (isLabel_iff.mp label).2.2
  rw [String.length_toList] at short tld_short
  have dot : ".".length = 1 := rfl
  rw [String.length_append, String.length_append, dot]
  omega

/-- What stands behind the last dot is read back. -/
theorem under_inj {stem other tld last : String} (chars : LabelText tld) (last_chars : LabelText last)
    (same : stem ++ "." ++ tld = other ++ "." ++ last) : stem = other ∧ tld = last := by
  have lists := congrArg String.toList same
  simp only [String.toList_append, List.append_assoc] at lists
  change stem.toList ++ '.' :: tld.toList = other.toList ++ '.' :: last.toList at lists
  have split := congrArg (List.splitOnP (· = '.')) lists
  rw [List.splitOnP_append_cons _ _ (by decide), List.splitOnP_append_cons _ _ (by decide),
    List.splitOnP_eq_singleton (no_dot chars), List.splitOnP_eq_singleton (no_dot last_chars)] at split
  have tails := (List.append_inj' split rfl).2
  rw [List.singleton_inj] at tails
  rw [tails] at lists
  exact ⟨String.toList_inj.mp (List.append_cancel_right lists), String.toList_inj.mp tails⟩

/-- How many stems the limit reaches. -/
def reachedStems (tlds limit : Nat) : Nat := min 6 (Blocks.begun tlds limit)

theorem take_reached (tlds limit : Nat) :
    (stems brand service city).take (Blocks.begun tlds limit) =
      (stems brand service city).take (reachedStems tlds limit) := by
  rw [reachedStems, ← List.take_take]
  exact (List.take_of_length_le (show _ ≤ 6 from List.length_take_le' ..)).symm

theorem nodup_underTlds {tlds : List String} (distinct : tlds.Nodup) (stem : String) :
    (underTlds tlds stem).Nodup := by
  apply distinct.map
  intro tld last same
  have lists := congrArg String.toList same
  simp only [String.toList_append] at lists
  exact String.toList_inj.mp (List.append_cancel_left lists)

/-- The domains differ and name hosts exactly by the rules of the stems reached. -/
theorem candidateDomains_fit (request : DomainGenerationRequest) (edged : Edged brand.toList)
    (edged_service : Edged service.toList) (edged_city : Edged city.toList) :
    ((candidateDomains brand service city request.tlds request.limit).Nodup ∧
        ∀ domain ∈ candidateDomains brand service city request.tlds request.limit, isHostName domain) ↔
      ∀ i < reachedStems request.tlds.length request.limit, stemRule brand service city i := by
  rw [← stems_fit edged edged_service edged_city (show reachedStems _ _ ≤ 6 from min_le_left ..),
    ← take_reached, candidateDomains]
  cases tlds : request.tlds with
  | nil =>
    have none_ : Blocks.begun 0 request.limit = 0 := by simp [Blocks.begun]
    have empty : (stems brand service city).flatMap (underTlds []) = [] := by simp [underTlds]
    simp [none_, empty]
  | cons tld rest =>
    have some : 0 < (tld :: rest).length := by simp
    have accepted := request.each_tld
    have distinct := request.distinct
    rw [tlds] at accepted distinct
    have tld_chars : ∀ tld' ∈ tld :: rest, LabelText tld' := fun other member =>
      (isLabel_iff.mp (isLabel_tld (accepted other member))).1.chars
    have size : ∀ stem, (underTlds (tld :: rest) stem).length = (tld :: rest).length :=
      fun stem => List.length_map _
    have apart : ∀ stem other domain, domain ∈ underTlds (tld :: rest) stem →
        domain ∈ underTlds (tld :: rest) other → stem = other := by
      intro stem other domain first second
      obtain ⟨one, member, rfl⟩ := List.mem_map.mp first
      obtain ⟨two, member', same⟩ := List.mem_map.mp second
      exact (under_inj (tld_chars two member') (tld_chars one member) same).1.symm
    rw [Blocks.nodup_take some size (nodup_underTlds distinct) apart]
    apply and_congr_right
    intro _
    have chars := stems_chars edged edged_service edged_city
    constructor
    · intro hosts stem member
      have first := Blocks.head_mem_take some size member (stem ++ "." ++ tld) rfl
      exact (isHostName_under (chars stem (List.mem_of_mem_take member))
        (accepted tld List.mem_cons_self)).mp (hosts _ first)
    · intro labels domain member
      obtain ⟨stem, there, inside⟩ := Blocks.mem_take some size member
      obtain ⟨other, listed, rfl⟩ := List.mem_map.mp inside
      exact (isHostName_under (chars stem (List.mem_of_mem_take there)) (accepted other listed)).mpr
        (labels stem there)

end Hosts

/-! ## The law of the candidates -/

/-- A request for domains succeeds; its domains differ and name hosts; the rows
there were stand, and the same request adds none. -/
structure Offered (lower : String → String) (s : Store) (propertyId : String) (o : ListedOpportunity)
    (request : DomainGenerationRequest) (after : Store) (result : List DomainCandidate) : Prop where
  done : offerDomains lower s propertyId o request = .ok (after, result)
  distinct : (result.map DomainCandidate.domain).Nodup
  hosts : ∀ row ∈ result, isHostName row.domain
  kept : s.candidates <+: after.candidates
  again : offerDomains lower after propertyId o request = .ok (after, result)

theorem Offered.fits {lower : String → String} {s after : Store} {propertyId : String}
    {o : ListedOpportunity} {request : DomainGenerationRequest} {result : List DomainCandidate}
    {row : Property} (there : s.property propertyId = .ok row)
    (offered : Offered lower s propertyId o request after result) :
    (domainsFor lower row.neutralBrand o request).Nodup ∧
      ∀ domain ∈ domainsFor lower row.neutralBrand o request, isHostName domain := by
  obtain ⟨same, -, -⟩ := offerDomains_ok there offered.done
  rw [← same]
  refine ⟨offered.distinct, fun domain member => ?_⟩
  obtain ⟨candidate, inside, rfl⟩ := List.mem_map.mp member
  exact offered.hosts candidate inside

theorem offered_iff (lower : String → String) (s : Store) (propertyId : String) (o : ListedOpportunity)
    (request : DomainGenerationRequest) {row : Property} (there : s.property propertyId = .ok row) :
    (∃ after result, Offered lower s propertyId o request after result) ↔
      ∀ i < reachedStems request.tlds.length request.limit,
        stemRule (slug lower row.neutralBrand) (slug lower o.serviceName) (slug lower o.city) i := by
  rw [← candidateDomains_fit request (slug_edged ..) (slug_edged ..) (slug_edged ..)]
  constructor
  · rintro ⟨after, result, offered⟩
    exact offered.fits there
  · rintro ⟨distinct, hosts⟩
    obtain ⟨after, result, done⟩ := offerDomains_distinct there distinct
    obtain ⟨same, kept, again⟩ := offerDomains_ok there done
    refine ⟨after, result, done, by rw [same]; exact distinct, fun candidate member => ?_, kept, again⟩
    apply hosts
    rw [← domainsFor, ← same]
    exact List.mem_map_of_mem member

/-- A draft property of a brand. -/
def draftProperty (brand : String) : Property where
  id := "austin"
  opportunityId := 1
  neutralBrand := brand
  serviceFamilyId := 1
  marketId := 1
  publicTrackingNumber := none
  publicContactEmail := none
  analyticsConfig := .obj []

def austinPlumbing : ListedOpportunity := ⟨"Plumbing", ["Austin"], "Austin, TX"⟩

/-- The request without arguments. -/
def defaultRequest : DomainGenerationRequest where
  limit := 6
  tlds := ["com"]
  limit_range := by omega
  each_tld := by decide
  distinct := by decide

theorem harbor_guide_offered :
    ∃ after result, Offered String.toLower { properties := [draftProperty "Harbor Guide"] } "austin"
      austinPlumbing defaultRequest after result := by
  apply (offered_iff String.toLower { properties := [draftProperty "Harbor Guide"] } "austin"
    austinPlumbing defaultRequest rfl).mpr
  decide +kernel

/-- The brand that is the city and the service. -/
theorem austin_plumbing_refused :
    ¬∃ after result, Offered String.toLower { properties := [draftProperty "Austin Plumbing"] } "austin"
      austinPlumbing defaultRequest after result := by
  rintro ⟨after, result, offered⟩
  have distinct := (offered.fits rfl).1
  revert distinct
  decide +kernel

end RankRent.Properties
