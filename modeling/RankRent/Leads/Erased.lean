import RankRent.Leads.Erasure
import RankRent.Leads.Snapshots

/-!
# After an erasure

Transactions of the workers, of `submit`, of `record` and of the retention pass,
one after the other. None of them changes an erased lead.
-/

namespace RankRent.Leads

/-- One transaction of the lead router. -/
inductive Action
  | worker (transaction : Transaction)
  | submit (service : LeadRoutingService) (form : LeadForm) (context : RequestContext) (draws : SubmitDraws)
  | record (lower : String → String) (event : AnalyticsEventInput)
  | enforceRetention (now : DateTime)

def State.act (s : State) : Action → State
  | .worker transaction => s.perform transaction
  | .submit service form context draws =>
    { s with store := s.store.orElse (service.submit s.store form context draws) }
  | .record lower event => { s with store := s.store.orElse (record lower s.store event) }
  | .enforceRetention now => { s with store := s.store.orElse (enforceRetention s.store now) }

/-- Everything but another deletion of the lead. -/
def Action.Further (leadId : String) : Action → Prop
  | .worker (.deleteLead other _ _) => other ≠ leadId
  | _ => True

instance (leadId : String) : ∀ action : Action, Decidable (action.Further leadId)
  | .worker (.deleteLead other _ _) => inferInstanceAs (Decidable (other ≠ leadId))
  | .worker (.claim ..) | .worker (.heartbeat ..) | .worker (.begin ..) | .worker (.finish ..)
  | .worker (.crash _) | .worker (.recover ..) | .worker (.assign _) => inferInstanceAs (Decidable True)
  | .submit .. | .record .. | .enforceRetention _ => inferInstanceAs (Decidable True)

abbrev Afterwards (leadId : String) : State → State → Prop :=
  Runs.Reaches (fun _ action => Action.Further leadId action) fun s action t => t = s.act action

/-! ## What belongs to a lead -/

/-- The attempts of a lead, by their unique key. -/
def Store.attemptsFor (s : Store) (leadId : String) : List (String × Nat) :=
  (s.attempts.filter fun a => a.leadId = leadId).map fun a => (a.deliveryKey, a.attemptNumber)

/-- The calls of an adapter for a lead. -/
def State.callsFor (s : State) (leadId : String) : List Call :=
  s.calls.filter fun call => call.request.leadId = leadId

/-- The constraints that keep the rows of one lead apart from the others. -/
structure Store.Keyed (s : Store) : Prop where
  leads : (s.leads.map Lead.id).Nodup
  leadKeys : (s.leads.map Lead.uniqueKey).Nodup
  deliveries : (s.deliveries.map ProviderDelivery.id).Nodup

/-- The rows of the lead are left as they are. -/
structure Store.Leaves (leadId : String) (s s' : Store) : Prop where
  keyed : s'.Keyed
  lead : s'.lead? leadId = s.lead? leadId
  deliveries : s'.deliveriesOf leadId = s.deliveriesOf leadId
  attempts : s'.attemptsFor leadId = s.attemptsFor leadId

/-- An erased lead: no delivery of it is on its way. -/
structure Store.Gone (s : Store) (lead : Lead) : Prop where
  keyed : s.Keyed
  row : s.lead? lead.id = some lead
  deleted : lead.piiDeletedAt.isSome = true
  ended : ∀ d ∈ s.deliveries, d.leadId = lead.id → d.status.nonterminal = false

section Frames
variable {s s' : Store} {lead : Lead} {leadId : String}

theorem Store.Leaves.refl (keyed : s.Keyed) : s.Leaves leadId s := ⟨keyed, rfl, rfl, rfl⟩

theorem Store.Leaves.gone (leaves : s.Leaves lead.id s') (gone : s.Gone lead) : s'.Gone lead where
  keyed := leaves.keyed
  row := leaves.lead.trans gone.row
  deleted := gone.deleted
  ended d member of := by
    have within : d ∈ s'.deliveriesOf lead.id := List.mem_filter.mpr ⟨member, by simpa using of⟩
    rw [leaves.deliveries] at within
    exact gone.ended d (List.mem_filter.mp within).1 of

theorem Store.Gone.apart (gone : s.Gone lead) {d : ProviderDelivery} (member : d ∈ s.deliveries)
    (active : d.status.nonterminal = true) : d.leadId ≠ lead.id := by
  intro of
  rw [gone.ended d member of] at active
  cases active

/-- Rows of deliveries and leads that change in place. -/
theorem Store.Leaves.mapped (keyed : s.Keyed) (f : ProviderDelivery → ProviderDelivery) (g : Lead → Lead)
    (deliveries : s'.deliveries = s.deliveries.map f) (leads : s'.leads = s.leads.map g)
    (attempts : s'.attemptsFor leadId = s.attemptsFor leadId)
    (fId : ∀ d, (f d).id = d.id) (fLead : ∀ d ∈ s.deliveries, (f d).leadId = d.leadId)
    (same : ∀ d ∈ s.deliveries, d.leadId = leadId → f d = d)
    (gId : ∀ lead, (g lead).id = lead.id) (keys : (s'.leads.map Lead.uniqueKey).Nodup)
    (kept : ∀ lead ∈ s.leads, lead.id = leadId → g lead = lead) : s.Leaves leadId s' where
  keyed := by
    constructor
    · rw [leads, Table.keys_map gId]
      exact keyed.leads
    · exact keys
    · rw [deliveries, Table.keys_map fId]
      exact keyed.deliveries
  lead := by
    rw [Store.lead?, Store.lead?, leads, Table.get_map gId]
    cases found : Table.get Lead.id s.leads leadId with
    | none => rfl
    | some lead => rw [Option.map_some, kept lead (Table.get_mem found) (Table.get_key found)]
  deliveries := by
    rw [Store.deliveriesOf, Store.deliveriesOf, deliveries, List.filter_map]
    have chosen : s.deliveries.filter ((fun d => decide (d.leadId = leadId)) ∘ f) =
        s.deliveries.filter fun d => d.leadId = leadId := by
      apply List.filter_congr
      intro d member
      simp only [Function.comp, fLead d member]
    rw [chosen]
    conv_rhs => rw [← List.map_id (s.deliveries.filter _)]
    apply List.map_congr_left
    intro d member
    obtain ⟨there, of⟩ := List.mem_filter.mp member
    exact same d there (by simpa using of)
  attempts := attempts

end Frames

/-! ## Workers -/

/-- What a session changes belongs to deliveries under a lease. -/
structure Session.OnActive (t : Session) (s : Store) : Prop where
  rows : ∀ new ∈ t.deliveries, ∃ d ∈ s.deliveries, d.status.active = true ∧ new.id = d.id ∧ new.leadId = d.leadId
  leads : ∀ lead ∈ t.leads, ∃ d ∈ s.deliveries, d.status.active = true ∧ lead.id = d.leadId
  attempt : ∀ a ∈ t.newAttempt, ∃ d ∈ s.deliveries, d.status.active = true ∧ a.leadId = d.leadId

section Workers
variable {s s' : Store} {t : Session} {lead : Lead}

theorem owned_active {lease : DeliveryLease} {d : ProviderDelivery} (owns : d.owns lease = true) :
    d.status.active = true := (ProviderDelivery.owns_iff.mp owns).1

/-- The attempt and the request of a first block are those of its delivery. -/
theorem beginDelivery_lead {lease : DeliveryLease} {adapters : DeliveryChannel → Option String}
    {now : DateTime} {begun : Begun} (begins : beginDelivery s lease adapters now = some begun) :
    ∃ d ∈ s.deliveries, d.status.active = true ∧ (∀ a ∈ begun.session.newAttempt, a.leadId = d.leadId) ∧
      ∀ request ∈ begun.request, request.1.leadId = d.leadId := by
  unfold beginDelivery at begins
  split at begins
  · cases begins
  · rename_i d found
    split at begins
    · cases begins
    · rename_i owns
      refine ⟨d, Store.delivery?_mem found, owned_active (by simpa using owns), ?_⟩
      split at begins
      · rename_i errorCode checked
        let failed := (Session.opened s).failDelivery d errorCode
          "Delivery failed validation before the provider adapter was called." now
        have begins : some (Begun.mk failed.1 none failed.2) = some begun := begins
        cases begins
        constructor
        · intro a new
          rw [Session.failDelivery_fst] at new
          simp [Session.putDelivery, Session.opened] at new
        · intro request none
          cases none
      · rename_i request checked
        obtain ⟨-, leadId⟩ := checkDelivery_ok checked
        cases begins
        constructor
        · intro a new
          cases new
          exact leadId
        · intro request' some
          cases some
          exact leadId

theorem Session.ending_onActive {d new : ProviderDelivery} {attempts : List RoutingAttempt} {now : DateTime}
    (member : d ∈ s.deliveries) (active : d.status.active = true) (same : SameDelivery d new) :
    (Session.ending s attempts new d.leadId now).OnActive s := by
  constructor
  · intro held within
    rw [Session.ending_deliveries, List.mem_singleton] at within
    rw [within]
    exact ⟨d, member, active, same.id, same.leadId⟩
  · intro lead within
    exact ⟨d, member, active, (Session.ending_leads _ _ _ _ _ within).1⟩
  · intro a new
    rw [Session.ending_newAttempt] at new
    cases new

theorem Session.ReadFrom.onActive (read : t.ReadFrom s) : t.OnActive s := by
  cases read with
  | begins lease adapters now begun begins session =>
    obtain ⟨e, there, active, attempt, -⟩ := beginDelivery_lead begins
    obtain ⟨d, found, owns, starts | rejects⟩ := beginDelivery_some begins
    · obtain ⟨request, new, eq, -⟩ := starts
      rw [← session]
      constructor
      · intro held within
        rw [eq] at within
        simp only [Session.putDelivery, Session.opened, List.mem_singleton] at within
        rw [within]
        exact ⟨d, Store.delivery?_mem found, owned_active owns, rfl, rfl⟩
      · intro lead within
        rw [eq] at within
        cases within
      · intro a new
        exact ⟨e, there, active, attempt a new⟩
    · obtain ⟨errorCode, summary, at_, eq, -⟩ := rejects
      rw [← session, eq]
      exact Session.ending_onActive (Store.delivery?_mem found) (owned_active owns) ⟨rfl, rfl, rfl, rfl⟩
  | finishes lease number outcome base maximum now alert finishes =>
    obtain ⟨d, attempt, new, ended, found, owns, -, eq, settles⟩ := finishDelivery_some finishes
    rw [eq]
    exact Session.ending_onActive (Store.delivery?_mem found) (owned_active owns) settles.same
  | recovers locked staleAfterSeconds now session =>
    obtain ⟨rows, eq, perm⟩ := recoverStaleDeliveries_eq s locked staleAfterSeconds now
    have chosen : ∀ d ∈ rows, d ∈ s.deliveries ∧ d.status.active = true := by
      intro d member
      obtain ⟨there, stale⟩ := List.mem_filter.mp (perm.mem_iff.mp member)
      simp only [ProviderDelivery.stale, Bool.and_eq_true] at stale
      exact ⟨there, stale.1.1⟩
    rw [← session, eq]
    constructor
    · intro new within
      rw [Session.recovering_deliveries, List.mem_reverse] at within
      obtain ⟨d, member, rfl⟩ := List.mem_map.mp within
      exact ⟨d, (chosen d member).1, (chosen d member).2, d.recovered_id now, d.recovered_leadId now⟩
    · intro lead within
      obtain ⟨-, d, member, id⟩ := Session.recovering_leads _ _ _ within
      exact ⟨d, (chosen d member).1, (chosen d member).2, id⟩
    · intro a new
      rw [Session.recovering_newAttempt] at new
      cases new

theorem Session.writeAttempt_leadId (stored : RoutingAttempt) :
    (t.writeAttempt stored).leadId = stored.leadId := by
  unfold Session.writeAttempt
  split <;> rfl

theorem Session.writeLead_key (stored : Lead) : (t.writeLead stored).uniqueKey = stored.uniqueKey := by
  unfold Session.writeLead
  split <;> rfl

/-- A commit right after its reads leaves an erased lead as it is. -/
theorem Session.OnActive.leaves (on : t.OnActive s) (commits : t.Commits s s')
    (gone : s.Gone lead) : s.Leaves lead.id s' := by
  have source : ∀ d ∈ s.deliveries, ∀ new ∈ t.deliveries, new.id = d.id →
      d.status.active = true ∧ new.leadId = d.leadId := by
    intro d member new within id
    obtain ⟨e, there, active, same, leadId⟩ := on.rows new within
    obtain rfl := Table.get_inj gone.keyed.deliveries member there (id.symm.trans same)
    exact ⟨active, leadId⟩
  apply Store.Leaves.mapped gone.keyed t.writeDelivery t.writeLead commits.deliveries commits.leads
  · rw [Store.attemptsFor, Store.attemptsFor, commits.attempts, List.filter_append, List.map_append]
    have none : ((t.newAttempt.toList.map fun a => { a with id := nextId RoutingAttempt.id s.attempts }).filter
        fun a => a.leadId = lead.id) = [] := by
      rw [List.filter_eq_nil_iff]
      intro a member
      obtain ⟨b, new, rfl⟩ := List.mem_map.mp member
      obtain ⟨d, there, active, leadId⟩ := on.attempt b (by simpa using new)
      have differs := gone.apart there (DeliveryStatus.nonterminal_of_active active)
      rw [← leadId] at differs
      simpa using differs
    rw [none, List.map_nil, List.append_nil, List.filter_map, List.map_map]
    have chosen : s.attempts.filter ((fun a => decide (a.leadId = lead.id)) ∘ t.writeAttempt) =
        s.attempts.filter fun a => a.leadId = lead.id := by
      apply List.filter_congr
      intro a _
      simp only [Function.comp, Session.writeAttempt_leadId]
    rw [chosen]
    apply List.map_congr_left
    intro a _
    obtain ⟨-, key, number⟩ := t.writeAttempt_keeps a
    simp only [Function.comp, key, number]
  · exact fun d => t.writeDelivery_id d
  · intro d member
    unfold Session.writeDelivery
    split
    · rename_i new loaded held found
      have leadId := (source d member new (Table.get_mem held) (Table.get_key held)).2
      simp only [ProviderDelivery.flush, written]
      split
      · rfl
      · exact leadId
    · rfl
  · intro d member within
    apply Session.writeDelivery_other
    intro touched
    obtain ⟨new, held, id⟩ := List.mem_map.mp touched
    have active := (source d member new held id).1
    exact gone.apart member (DeliveryStatus.nonterminal_of_active active) within
  · exact fun stored => t.writeLead_id stored
  · rw [commits.leads, Table.keys_map fun stored => t.writeLead_key stored]
    exact gone.keyed.leadKeys
  · intro stored member id
    apply Session.writeLead_other
    intro held within
    obtain ⟨d, there, active, same⟩ := on.leads held within
    rw [same, id]
    exact gone.apart there (DeliveryStatus.nonterminal_of_active active)

/-- A step of the queue that writes no delivery of an erased lead. -/
theorem Store.Gone.updateDelivery (gone : s.Gone lead) (id : String) (f : ProviderDelivery → ProviderDelivery)
    (keeps : ∀ d, (f d).id = d.id ∧ (f d).leadId = d.leadId)
    (same : ∀ d ∈ s.deliveries, d.id = id → d.leadId = lead.id → f d = d) :
    s.Leaves lead.id (s.updateDelivery id f) := by
  apply Store.Leaves.mapped gone.keyed (fun d => if d.id = id then f d else d) (fun lead => lead) rfl
  · rw [Store.updateDelivery, List.map_id']
  · rfl
  · intro d
    split
    · exact (keeps d).1
    · rfl
  · intro d _
    split
    · exact (keeps d).2
    · rfl
  · intro d member of
    split
    · rename_i here
      exact same d member here of
    · rfl
  · intro lead
    rfl
  · exact gone.keyed.leadKeys
  · intro lead _ _
    rfl

theorem Store.Keyed.anonymize (keyed : s.Keyed) {ids : List String} {now : DateTime}
    (erased : s.anonymize ids now = some s') : s'.Keyed := by
  obtain ⟨deliveries, -⟩ := Store.anonymize_rows erased
  constructor
  · rw [Store.anonymize_leads keyed.leads erased, Table.keys_map]
    · exact keyed.leads
    · intro lead
      split <;> rfl
  · simp only [Store.anonymize, Option.bind_eq_bind, Option.bind_eq_some_iff] at erased
    obtain ⟨leads, flushed, events, -, outcomes, -, analytics, -, eq⟩ := erased
    cases eq
    exact flushTable_keys keyed.leads (fun other => show (other.erased now).id = other.id from rfl)
      (fun other => show (other.erased now).uniqueKey = (other.propertyId, tombstone other.id) from rfl)
      (fun _ _ differs same => differs (tombstone_injective (Prod.mk.inj same).2)) keyed.leadKeys flushed
  · rw [deliveries, Table.keys_map]
    · exact keyed.deliveries
    · intro d
      split
      · exact (d.erased_turn now []).keeps.id
      · rfl

/-- An erased lead is gone. -/
theorem Store.Keyed.gone (keyed : s.Keyed) {ids : List String} {now : DateTime} (there : s.lead? lead.id = some lead)
    (selected : lead.id ∈ ids) (erased : s.anonymize ids now = some s') : s'.Gone (lead.erased now) where
  keyed := keyed.anonymize erased
  row := by
    have row : (s.lead? lead.id).map (fun lead => if lead.id ∈ ids then lead.erased now else lead) =
        some (lead.erased now) := by
      rw [there, Option.map_some, if_pos selected]
    rw [← row, Store.lead?, Store.anonymize_leads keyed.leads erased, Table.get_map]
    · rfl
    · intro lead
      split <;> rfl
  deleted := rfl
  ended := by
    intro d' member of
    rw [(Store.anonymize_rows erased).1] at member
    obtain ⟨d, -, rfl⟩ := List.mem_map.mp member
    have same : d.leadId = lead.id := by
      rw [← show (if d.leadId ∈ ids then d.erased now else d).leadId = d.leadId by
        split
        · exact (d.erased_turn now []).keeps.leadId
        · rfl]
      exact of
    rw [if_pos (same ▸ selected)]
    unfold ProviderDelivery.erased
    dsimp only
    split
    · rfl
    · rename_i terminal
      simpa using terminal

/-- An erasure of other leads. -/
theorem Store.Gone.anonymize (gone : s.Gone lead) {ids : List String} {now : DateTime}
    (apart : lead.id ∉ ids) (erased : s.anonymize ids now = some s') : s.Leaves lead.id s' := by
  obtain ⟨deliveries, attempts⟩ := Store.anonymize_rows erased
  apply Store.Leaves.mapped gone.keyed _ _ deliveries (Store.anonymize_leads gone.keyed.leads erased)
  · rw [Store.attemptsFor, attempts]
    rfl
  · intro d
    split
    · exact (d.erased_turn now []).keeps.id
    · rfl
  · intro d _
    split
    · exact (d.erased_turn now []).keeps.leadId
    · rfl
  · intro d _ of
    rw [if_neg (by rw [of]; exact apart)]
  · intro other
    split <;> rfl
  · exact (gone.keyed.anonymize erased).leadKeys
  · intro other _ same
    rw [if_neg (by rw [same]; exact apart)]

end Workers

section Steps
variable {s : State} {lead : Lead}

/-- The commit of a session that read the rows as they are. -/
theorem Store.Gone.commit {t : Session} (gone : s.store.Gone lead) (read : t.ReadFrom s.store) {store : Store}
    (committed : t.commit s.store = some store) : s.store.Leaves lead.id store :=
  read.onActive.leaves (Session.commits committed) gone

theorem State.commit_leaves (read : ∀ t, s.Opened t → t.ReadFrom s.store) (gone : s.store.Gone lead) (e : Nat) :
    s.store.Leaves lead.id (s.apply (.commit e)).store := by
  simp only [State.apply]
  cases at_ : s.runs[e]? with
  | none => exact .refl gone.keyed
  | some run =>
    obtain same | ⟨t, store, opened, committed, eq⟩ := s.commit_store run e
    · dsimp only
      rw [same]
      exact .refl gone.keyed
    · dsimp only
      rw [eq]
      exact gone.commit (read t (Or.inl ⟨run, List.mem_of_getElem? at_, opened⟩)) committed

theorem State.Idle.read (idle : s.Idle) (op : Op) {t : Session} (opened : (s.apply op).Opened t) :
    t.ReadFrom s.store := by
  obtain before | ⟨read, -⟩ := State.opened_apply op opened
  · obtain ⟨run, member, holds⟩ | member := before
    · rw [idle.runs run member] at holds
      cases holds
    · cases idle.recoveries _ member
  · exact read

/-- A transaction of the workers leaves an erased lead as it is. -/
theorem State.Idle.perform_leaves (idle : s.Idle) (gone : s.store.Gone lead) {transaction : Transaction}
    (further : (Action.worker transaction).Further lead.id) :
    s.store.Leaves lead.id (s.perform transaction).store := by
  cases transaction with
  | claim id workerId leaseToken leaseSeconds now =>
    change s.store.Leaves lead.id (s.claim id workerId leaseToken leaseSeconds now).store
    unfold State.claim
    split
    · exact .refl gone.keyed
    · rename_i delivery found
      split
      · rename_i due
        apply gone.updateDelivery id (fun d => d.claimed workerId leaseToken leaseSeconds now)
          (fun d => ⟨rfl, rfl⟩)
        intro d member here of
        obtain rfl : d = delivery :=
          Table.get_inj gone.keyed.deliveries member (Store.delivery?_mem found)
            (here.trans (Store.delivery?_id found).symm)
        simp only [ProviderDelivery.due, Bool.and_eq_true] at due
        exact absurd of (gone.apart member (DeliveryStatus.nonterminal_of_claimable due.1))
      · exact .refl gone.keyed
  | heartbeat e leaseSeconds now =>
    change s.store.Leaves lead.id (s.apply (.heartbeat e leaseSeconds now)).store
    simp only [State.apply]
    split
    · exact .refl gone.keyed
    · rename_i run at_
      unfold State.heartbeat
      split
      · exact .refl gone.keyed
      · split
        · apply gone.updateDelivery run.lease.deliveryId
          · intro d
            split <;> exact ⟨rfl, rfl⟩
          · intro d member _ of
            split
            · rename_i owns
              exact absurd of (gone.apart member (DeliveryStatus.nonterminal_of_active (owned_active owns)))
            · rfl
        · exact .refl gone.keyed
  | begin e adapters now =>
    obtain ⟨-, -, store⟩ := idle.begin e adapters now
    have left : (s.apply (.begin e adapters now)).store.Leaves lead.id
        ((s.apply (.begin e adapters now)).apply (.commit e)).store :=
      State.commit_leaves (fun t opened => store ▸ idle.read _ opened) (store ▸ gone) e
    rw [store] at left
    exact left
  | finish e outcome base maximum now =>
    obtain ⟨-, -, store⟩ := idle.finish e outcome base maximum now
    have left : (s.apply (.finish e outcome base maximum now)).store.Leaves lead.id
        ((s.apply (.finish e outcome base maximum now)).apply (.commit e)).store :=
      State.commit_leaves (fun t opened => store ▸ idle.read _ opened) (store ▸ gone) e
    rw [store] at left
    exact left
  | crash e => exact .refl gone.keyed
  | recover staleAfterSeconds now =>
    let session := recoverStaleDeliveries s.store s.locked staleAfterSeconds now
    change s.store.Leaves lead.id (State.apply { s with recoveries := s.recoveries ++ [some session] }
      (.commitRecovery s.recoveries.length)).store
    simp only [State.apply, List.getElem?_concat_length, State.commitRecovery]
    cases committed : session.commit s.store with
    | none => exact .refl gone.keyed
    | some store => exact gone.commit (.recovers s.locked staleAfterSeconds now rfl) committed
  | deleteLead leadId role now =>
    change s.store.Leaves lead.id (s.deleteLead leadId role now).store
    unfold State.deleteLead
    split
    · exact .refl gone.keyed
    · unfold Leads.deleteLead
      split
      · exact .refl gone.keyed
      · split
        · exact .refl gone.keyed
        · rename_i other found
          split
          · exact .refl gone.keyed
          · rename_i store erased
            apply gone.anonymize _ erased
            rw [List.mem_singleton, Store.lead?_id found]
            exact Ne.symm further
  | assign assignments =>
    exact ⟨⟨gone.keyed.leads, gone.keyed.leadKeys, gone.keyed.deliveries⟩, rfl, rfl, rfl⟩

end Steps

/-! ## Submissions and events -/

section Intake
variable {s store : Store} {lead : Lead} {service : LeadRoutingService} {form : LeadForm}
  {context : RequestContext} {draws : SubmitDraws} {result : LeadSubmissionResult}

/-- A submission returns the lead under its key, or a duplicate that was not
erased, or the lead it inserts. -/
theorem submit_ok (ok : service.submit s form context draws = .ok (store, result)) :
    (∃ found, s.leadUnder form = some found ∧ store = s ∧ result.leadId = found.id) ∨
    s.leadUnder form = none ∧
      ((∃ found ∈ s.leads, found.piiDeletedAt = none ∧ store = s ∧ result.leadId = found.id) ∨
      ∃ profile assessment assignment,
        service.insert s form context draws profile assessment assignment = some store ∧
          result.leadId = draws.leadId) := by
  unfold LeadRoutingService.submit at ok
  cases under : s.leadUnder form with
  | some replay =>
    rw [under] at ok
    cases ok
    exact Or.inl ⟨replay, rfl, rfl, rfl⟩
  | none =>
    rw [under] at ok
    refine Or.inr ⟨rfl, ?_⟩
    dsimp only at ok
    split at ok
    · cases ok
    · rename_i profile found
      repeat' split at ok
      · cases ok
      · cases ok
      · cases ok
      · unfold LeadRoutingService.accept at ok
        split at ok
        · rename_i duplicate twice
          cases ok
          have is := List.find?_some twice
          simp only [Bool.and_eq_true, Option.isNone_iff_eq_none] at is
          exact Or.inl ⟨duplicate, List.mem_of_find?_eq_some twice, is.2, rfl, rfl⟩
        · dsimp only at ok
          split at ok
          · rw [Store.idempotencyWinner, under] at ok
            cases ok
          · rename_i inserted
            cases ok
            exact Or.inr ⟨_, _, _, inserted, rfl⟩

theorem Store.checked_eq {s s' : Store} (checked : s.checked = some s') : s' = s ∧ s.Constrained := by
  unfold Store.checked at checked
  split at checked
  · rename_i constrained
    exact ⟨(Option.some.inj checked).symm, constrained⟩
  · cases checked

theorem Store.Constrained.keyed (constrained : s.Constrained) : s.Keyed :=
  ⟨constrained.leads, constrained.leadKeys, constrained.deliveries⟩

/-- A new lead is none of the stored ones, and neither are its deliveries. -/
theorem insert_leaves {profile : RoutingProfile} {assessment : SpamAssessmentResult}
    {assignment : Option ProviderAssignment} (gone : s.Gone lead)
    (inserted : service.insert s form context draws profile assessment assignment = some store) :
    s.Leaves lead.id store ∧ draws.leadId ≠ lead.id := by
  obtain ⟨eq, constrained⟩ := Store.checked_eq inserted
  rw [← eq] at constrained
  have member : lead ∈ s.leads := Table.get_mem gone.row
  have fresh : draws.leadId ≠ lead.id := by
    intro same
    have ids := constrained.leads
    rw [eq, List.map_append, List.nodup_append] at ids
    exact ids.2.2 lead.id (List.mem_map_of_mem member) draws.leadId (by simp) same.symm
  refine ⟨⟨constrained.keyed, ?_, ?_, ?_⟩, fresh⟩
  · have row := gone.row
    rw [Store.lead?, Table.get] at row
    rw [eq, Store.lead?, Table.get, List.find?_append, row]
    exact gone.row.symm
  · rw [eq, Store.deliveriesOf, Store.deliveriesOf, List.filter_append]
    conv_rhs => rw [← List.append_nil (s.deliveries.filter _)]
    congr 1
    rw [List.filter_eq_nil_iff]
    intro d member
    split at member
    · obtain ⟨channel, -, rfl⟩ := List.mem_map.mp member
      simpa [LeadRoutingService.delivery] using fresh
    · cases member
  · rw [eq]
    rfl

theorem submit_leaves (gone : s.Gone lead) :
    s.Leaves lead.id (s.orElse (service.submit s form context draws)) := by
  cases submitted : service.submit s form context draws with
  | error _ => exact .refl gone.keyed
  | ok answer =>
    obtain ⟨store, result⟩ := answer
    dsimp only [Store.orElse]
    obtain ⟨found, -, same, -⟩ | ⟨-, ⟨found, -, -, same, -⟩ | ⟨profile, assessment, assignment, inserted, -⟩⟩ :=
      submit_ok submitted
    · rw [same]
      exact .refl gone.keyed
    · rw [same]
      exact .refl gone.keyed
    · exact (insert_leaves gone inserted).1

/-- A submission returns an erased lead just if it carries its tombstone key. -/
theorem submit_returns (gone : s.Gone lead) (ok : service.submit s form context draws = .ok (store, result)) :
    result.leadId = lead.id ↔ (form.propertyId, form.idempotencyKey.value) = lead.uniqueKey := by
  have member : lead ∈ s.leads := Table.get_mem gone.row
  have own : (form.propertyId, form.idempotencyKey.value) = lead.uniqueKey → s.leadUnder form = some lead := by
    intro same
    rw [Store.leadUnder, same]
    exact Table.get_of_mem gone.keyed.leadKeys member
  obtain ⟨found, under, -, id⟩ | ⟨none, ⟨found, there, alive, -, id⟩ |
    ⟨profile, assessment, assignment, inserted, id⟩⟩ := submit_ok ok
  · constructor
    · intro same
      have equal := Table.get_inj gone.keyed.leads (Table.get_mem under) member (id.symm.trans same)
      rw [← equal]
      exact (Table.get_key under).symm
    · intro same
      rw [own same] at under
      rw [id, Option.some.inj under]
  · constructor
    · intro same
      have equal := Table.get_inj gone.keyed.leads there member (id.symm.trans same)
      have deleted := gone.deleted
      rw [← equal, alive] at deleted
      cases deleted
    · intro same
      rw [own same] at none
      cases none
  · constructor
    · intro same
      exact absurd (id.symm.trans same) (insert_leaves gone inserted).2
    · intro same
      rw [own same] at none
      cases none

theorem record_leaves {lower : String → String} {event : AnalyticsEventInput} (gone : s.Gone lead) :
    s.Leaves lead.id (s.orElse (record lower s event)) := by
  unfold record
  split
  · exact .refl gone.keyed
  · split
    · split
      · exact .refl gone.keyed
      · rename_i store inserted
        obtain ⟨eq, -⟩ := Store.checked_eq inserted
        dsimp only [Store.orElse]
        rw [eq]
        exact ⟨⟨gone.keyed.leads, gone.keyed.leadKeys, gone.keyed.deliveries⟩, rfl, rfl, rfl⟩
    · exact .refl gone.keyed

theorem retention_leaves (gone : s.Gone lead) (now : DateTime) :
    s.Leaves lead.id (s.orElse (enforceRetention s now)) := by
  rw [orElse_enforceRetention]
  cases erased : s.anonymize (s.expired now) now with
  | none => exact .refl gone.keyed
  | some store =>
    apply gone.anonymize _ erased
    intro selected
    obtain ⟨other, member, same⟩ := List.mem_map.mp selected
    obtain ⟨there, expired⟩ := List.mem_filter.mp member
    have equal := Table.get_inj gone.keyed.leads there (Table.get_mem gone.row) same
    have deleted := gone.deleted
    simp only [Lead.expired, equal, Bool.and_eq_true, Option.isNone_iff_eq_none] at expired
    rw [expired.2] at deleted
    cases deleted

end Intake

/-! ## Runs -/

section Runs
variable {s t : State} {lead : Lead}

/-- The call a commit makes is that of the first block it commits. -/
theorem State.commit_call (s : State) (e : Nat) : (s.apply (.commit e)).calls = s.calls ∨
    ∃ run begun request number, s.runs[e]? = some run ∧ run.phase = .beginning begun ∧
      begun.request = some (request, number) ∧
      (s.apply (.commit e)).calls = s.calls ++ [⟨run.lease, request, number⟩] := by
  simp only [State.apply]
  split
  · exact Or.inl rfl
  · rename_i run found
    unfold State.commit
    split
    · exact Or.inl rfl
    · split
      · rename_i begun phase
        unfold State.commitBegun
        split
        · exact Or.inl rfl
        · split
          · rename_i request number requested
            exact Or.inr ⟨run, begun, request, number, found, phase, requested, rfl⟩
          · exact Or.inl rfl
      · unfold State.commitFinished
        split <;> exact Or.inl rfl
      · exact Or.inl rfl

theorem State.Idle.not_beginning (idle : s.Idle) {run : Execution} (member : run ∈ s.runs) (begun : Begun) :
    run.phase ≠ .beginning begun := by
  intro opened
  have none := idle.runs run member
  rw [opened] at none
  cases none

/-- A first block that is open after the read of one was begun by it. -/
theorem State.Idle.begun (idle : s.Idle) {e : Nat} {adapters : DeliveryChannel → Option String} {now : DateTime}
    {run : Execution} {begun : Begun} (found : (s.apply (.begin e adapters now)).runs[e]? = some run)
    (phase : run.phase = .beginning begun) : beginDelivery s.store run.lease adapters now = some begun := by
  simp only [State.apply] at found
  split at found
  · rename_i none
    rw [none] at found
    cases found
  · rename_i run' at_
    unfold State.begin at found
    split at found
    · split at found
      · obtain ⟨before, -, ⟨-, rfl⟩ | ⟨differs, -⟩⟩ := State.runs_setPhase found
        · cases phase
        · exact absurd rfl differs
      · rename_i begun' begins
        obtain ⟨before, there, ⟨-, rfl⟩ | ⟨differs, -⟩⟩ := State.runs_setPhase found
        · cases phase
          obtain rfl := Option.some.inj (at_.symm.trans there)
          exact begins
        · exact absurd rfl differs
    · exact absurd phase (idle.not_beginning (List.mem_of_getElem? found) begun)

/-- The last block begins no other. -/
theorem State.Idle.not_begun (idle : s.Idle) {e : Nat} {outcome : AdapterOutcome} {base maximum : ℚ}
    {now : DateTime} {run : Execution}
    (found : (s.apply (.finish e outcome base maximum now)).runs[e]? = some run) (begun : Begun) :
    run.phase ≠ .beginning begun := by
  intro phase
  simp only [State.apply] at found
  split at found
  · exact idle.not_beginning (List.mem_of_getElem? found) begun phase
  · unfold State.finish at found
    split at found
    · split at found
      all_goals
        obtain ⟨before, -, ⟨-, rfl⟩ | ⟨differs, -⟩⟩ := State.runs_setPhase found
        · cases phase
        · exact absurd rfl differs
    · exact idle.not_beginning (List.mem_of_getElem? found) begun phase

/-- A transaction of the workers calls no adapter for an erased lead. -/
theorem State.Idle.perform_calls (idle : s.Idle) (gone : s.store.Gone lead) (transaction : Transaction) :
    (s.perform transaction).callsFor lead.id = s.callsFor lead.id := by
  have quiet (op : Op) (reads : ∀ e, op ≠ .commit e) : (s.apply op).callsFor lead.id = s.callsFor lead.id := by
    rw [State.callsFor, s.apply_calls op reads]
    rfl
  cases transaction with
  | claim id workerId leaseToken leaseSeconds now =>
    exact quiet (.claim id workerId leaseToken leaseSeconds now) fun _ same => by cases same
  | heartbeat e leaseSeconds now => exact quiet (.heartbeat e leaseSeconds now) fun _ same => by cases same
  | begin e adapters now =>
    have read := s.apply_calls (.begin e adapters now) fun _ same => by cases same
    change ((s.apply (.begin e adapters now)).apply (.commit e)).callsFor lead.id = s.callsFor lead.id
    obtain same | ⟨run, begun, request, number, found, phase, requested, calls⟩ :=
      (s.apply (.begin e adapters now)).commit_call e
    · rw [State.callsFor, same, read]
      rfl
    · obtain ⟨d, there, active, -, of⟩ := beginDelivery_lead (idle.begun found phase)
      have apart := gone.apart there (DeliveryStatus.nonterminal_of_active active)
      rw [← of (request, number) requested] at apart
      have none : [Call.mk run.lease request number].filter (fun call => call.request.leadId = lead.id) = [] := by
        simpa using apart
      rw [State.callsFor, calls, read, List.filter_append, none, List.append_nil]
      rfl
  | finish e outcome base maximum now =>
    have read := s.apply_calls (.finish e outcome base maximum now) fun _ same => by cases same
    change ((s.apply (.finish e outcome base maximum now)).apply (.commit e)).callsFor lead.id = s.callsFor lead.id
    obtain same | ⟨run, begun, request, number, found, phase, -⟩ :=
      (s.apply (.finish e outcome base maximum now)).commit_call e
    · rw [State.callsFor, same, read]
      rfl
    · exact absurd phase (idle.not_begun found begun)
  | crash e => exact quiet (.crash e) fun _ same => by cases same
  | recover staleAfterSeconds now =>
    have committed := (s.apply (.recover staleAfterSeconds now)).apply_calls
      (.commitRecovery s.recoveries.length) fun _ same => by cases same
    change ((s.apply (.recover staleAfterSeconds now)).apply
      (.commitRecovery s.recoveries.length)).callsFor lead.id = s.callsFor lead.id
    rw [State.callsFor, committed]
    rfl
  | deleteLead leadId role now => exact quiet (.deleteLead leadId role now) fun _ same => by cases same
  | assign assignments => exact quiet (.assign assignments) fun _ same => by cases same

/-- What belongs to the lead is left as it is. -/
structure State.Leaves (leadId : String) (s t : State) : Prop where
  lead : t.store.lead? leadId = s.store.lead? leadId
  deliveries : t.store.deliveriesOf leadId = s.store.deliveriesOf leadId
  attempts : t.store.attemptsFor leadId = s.store.attemptsFor leadId
  calls : t.callsFor leadId = s.callsFor leadId

theorem State.Idle.act (idle : s.Idle) (action : Action) : (s.act action).Idle := by
  cases action with
  | worker transaction => exact idle.perform transaction
  | submit service form context draws => exact ⟨idle.runs, idle.recoveries⟩
  | record lower event => exact ⟨idle.runs, idle.recoveries⟩
  | enforceRetention now => exact ⟨idle.runs, idle.recoveries⟩

theorem State.Idle.act_leaves (idle : s.Idle) (gone : s.store.Gone lead) {action : Action}
    (further : action.Further lead.id) :
    s.store.Leaves lead.id (s.act action).store ∧ (s.act action).callsFor lead.id = s.callsFor lead.id := by
  cases action with
  | worker transaction => exact ⟨idle.perform_leaves gone further, idle.perform_calls gone transaction⟩
  | submit service form context draws => exact ⟨submit_leaves gone, rfl⟩
  | record lower event => exact ⟨record_leaves gone, rfl⟩
  | enforceRetention now => exact ⟨retention_leaves gone now, rfl⟩

/-- An erased lead stays as it is. -/
theorem State.Idle.afterwards (idle : s.Idle) (gone : s.store.Gone lead) (run : Afterwards lead.id s t) :
    t.store.Gone lead ∧ s.Leaves lead.id t := by
  have holds : t.Idle ∧ t.store.Gone lead ∧ s.Leaves lead.id t := by
    apply run.invariant (I := fun t => t.Idle ∧ t.store.Gone lead ∧ s.Leaves lead.id t)
    · rintro u action _ ⟨idle, gone, leaves⟩ further rfl
      obtain ⟨left, calls⟩ := idle.act_leaves gone further
      exact ⟨idle.act action, left.gone gone, left.lead.trans leaves.lead,
        left.deliveries.trans leaves.deliveries, left.attempts.trans leaves.attempts, calls.trans leaves.calls⟩
    · exact ⟨idle, gone, rfl, rfl, rfl, rfl⟩
  exact holds.2

end Runs

/-- A deletion of the lead, or a retention pass that selects it, left these rows. -/
def Store.Erases (s : Store) (leadId : String) (now : DateTime) (store : Store) : Prop :=
  (∃ role, deleteLead s leadId role now = .ok (store, true)) ∨
    ∃ ids, enforceRetention s now = .ok (store, ids) ∧ leadId ∈ ids

theorem Store.Erases.anonymize {s store : Store} {leadId : String} {now : DateTime}
    (erases : s.Erases leadId now store) : ∃ ids, leadId ∈ ids ∧ s.anonymize ids now = some store := by
  obtain ⟨role, deleted⟩ | ⟨ids, enforced, selected⟩ := erases
  · unfold deleteLead at deleted
    repeat' split at deleted
    all_goals cases deleted
    rename_i lead found store' erased
    refine ⟨[lead.id], ?_, erased⟩
    rw [Store.lead?_id found]
    exact List.mem_singleton_self leadId
  · unfold enforceRetention at enforced
    dsimp only at enforced
    split at enforced
    · cases enforced
    · rename_i store' erased
      cases enforced
      exact ⟨_, selected, erased⟩

/-- An erasure makes states that differ in the personal content of the lead
equal just if its tombstone keys are free. After it the lead stays as it is, and
a submission returns it just if it carries the tombstone key. -/
theorem lead_erasure (leadId : String) :
    (∀ s s' : Store, s.Constrained → s'.Constrained → s.Alike leadId s' → (s.lead? leadId).isSome →
      (∀ (role : LeadAccessRole) (now : DateTime), role.deletes = true →
        (s.orElse (deleteLead s leadId role now) = s'.orElse (deleteLead s' leadId role now) ↔
          s = s' ∨ s.TombstonesFree [leadId] ∧ s'.TombstonesFree [leadId])) ∧
      ∀ now : DateTime, leadId ∈ s.expired now →
        (s.orElse (enforceRetention s now) = s'.orElse (enforceRetention s' now) ↔
          s = s' ∨ s.TombstonesFree (s.expired now) ∧ s'.TombstonesFree (s.expired now))) ∧
    ∀ (s : State) (lead : Lead) (now : DateTime) (store : Store) (t : State), s.Idle → s.store.Constrained →
      s.store.lead? leadId = some lead → s.store.Erases leadId now store →
      Afterwards leadId { s with store := store } t →
      t.store.lead? leadId = some (lead.erased now) ∧
      State.Leaves leadId { s with store := store } t ∧
      (∀ d ∈ t.store.deliveriesOf leadId, d.status.nonterminal = false) ∧
      ∀ (service : LeadRoutingService) (form : LeadForm) (context : RequestContext) (draws : SubmitDraws)
        (after : Store) (result : LeadSubmissionResult),
        service.submit t.store form context draws = .ok (after, result) →
        (result.leadId = leadId ↔
          form.propertyId = lead.propertyId ∧ form.idempotencyKey.value = tombstone leadId) := by
  constructor
  · intro s s' constrained constrained' alike there
    obtain ⟨lead, found⟩ := Option.isSome_iff_exists.mp there
    obtain ⟨lead', found'⟩ := Option.isSome_iff_exists.mp (alike.lead? there)
    constructor
    · intro role now deletes
      rw [orElse_deleteLead found deletes, orElse_deleteLead found' deletes]
      exact anonymize_alike constrained constrained' alike (List.mem_singleton_self leadId) now
    · intro now selected
      rw [orElse_enforceRetention, orElse_enforceRetention, ← alike.expired now]
      exact anonymize_alike constrained constrained' alike selected now
  · intro s lead now store t idle constrained there erases run
    obtain rfl := Store.lead?_id there
    obtain ⟨ids, selected, erased⟩ := erases.anonymize
    have gone := constrained.keyed.gone there selected erased
    have still : State.Idle { s with store := store } := ⟨idle.runs, idle.recoveries⟩
    obtain ⟨gone', leaves⟩ := still.afterwards gone run
    refine ⟨gone'.row, leaves, ?_, ?_⟩
    · intro d member
      obtain ⟨within, of⟩ := List.mem_filter.mp member
      exact gone'.ended d within (of_decide_eq_true of)
    · intro service form context draws after result ok
      rw [show lead.id = (lead.erased now).id from rfl, submit_returns gone' ok]
      simp [Lead.uniqueKey, Lead.erased]

/-! ## Tombstones that are taken -/

namespace Sample

/-- A lead under an id of `uuid.uuid4()`. -/
def uuidLead : Lead := { lead with id := "3f2b8c1e-5d47-4a90-9b6e-0c1d2e3f4a5b" }

/-- Another lead, whose client chose the tombstone key of the first. -/
def squatter : Lead :=
  { lead with id := "9c5d1f70-2e4b-4c38-8a7d-6b0e1f2a3c4d", idempotencyKey := tombstone uuidLead.id }

def leads (leads : List Lead) : Store := { store [] with leads := leads }

def idleWith (store : Store) : State := ⟨store, [], [], [], []⟩

/-- A form that carries the tombstone key. -/
def tombstoneForm : LeadForm where
  propertyId := "property-1"
  name := "Grace Hopper"
  email := some "grace@example.com"
  phone := none
  postalCode := none
  message := none
  consentAccepted := true
  consentTextVersion := "consent-v1"
  referralDisclosureAcknowledged := true
  referralDisclosureVersion := "referral-v1"
  idempotencyKey := ⟨tombstone uuidLead.id, by decide +kernel, by decide +kernel, by decide +kernel⟩
  honeypot := ""

def context : RequestContext := ⟨none, none, "request-1", 100⟩

def draws : SubmitDraws where
  allow := fun _ _ _ => true
  leadId := "7e1a4b2c-0d3f-4e5a-9b8c-1f2e3d4c5b6a"
  deliveryId := DeliveryChannel.value

def policy : LeadRoutingPolicy where
  dedupeWindowMinutes := 60
  rateLimitCount := 5
  rateLimitWindowSeconds := 300
  maximumDeliveryAttempts := 3
  retentionDays := 365
  consentText := "I consent to being contacted about this service request."
  consentTextVersion := "consent-v1"
  referralDisclosureText := "This property may refer your request to an independent service provider."
  referralDisclosureVersion := "referral-v1"
  piiHashPepper := "pepper"

def service : LeadRoutingService where
  policy := policy
  adapters := adapters
  spamAssessor := fun _ _ => ⟨0, .allow, [], "local-v1"⟩
  lower := String.toLower

end Sample

theorem lead_erasure_uuidLead :
    (Sample.leads [Sample.uuidLead]).orElse (deleteLead (Sample.leads [Sample.uuidLead]) Sample.uuidLead.id
        .operator 0) =
      (Sample.leads [{ Sample.uuidLead with name := "Grace Hopper" }]).orElse
        (deleteLead (Sample.leads [{ Sample.uuidLead with name := "Grace Hopper" }]) Sample.uuidLead.id
          .operator 0) ∧
    (Sample.leads [Sample.uuidLead.erased 0]).lead? Sample.uuidLead.id = some (Sample.uuidLead.erased 0) := by
  constructor
  · have forgotten := ((lead_erasure Sample.uuidLead.id).1 (Sample.leads [Sample.uuidLead])
      (Sample.leads [{ Sample.uuidLead with name := "Grace Hopper" }]) (by decide +kernel)
      (by decide +kernel) rfl (by decide +kernel)).1 .operator 0 rfl
    exact forgotten.mpr (Or.inr ⟨by decide +kernel, by decide +kernel⟩)
  · have idle : (Sample.idleWith (Sample.leads [Sample.uuidLead])).Idle :=
      ⟨by simp [Sample.idleWith], by simp [Sample.idleWith]⟩
    exact ((lead_erasure Sample.uuidLead.id).2 (Sample.idleWith (Sample.leads [Sample.uuidLead])) Sample.uuidLead 0
      (Sample.leads [Sample.uuidLead.erased 0]) (Sample.idleWith (Sample.leads [Sample.uuidLead.erased 0])) idle
      (by decide +kernel) (by decide +kernel) (Or.inl ⟨.privacyAdmin, rfl⟩) .refl).1

/-- While another lead holds the tombstone key a deletion fails, and the name is
still there. After a deletion that succeeds, a submission with the tombstone key
is a replay of the deleted lead. -/
theorem lead_erasure_fails :
    (∃ (s s' : Store) (leadId : String), s.Constrained ∧ s'.Constrained ∧ s.Alike leadId s' ∧
      (s.lead? leadId).isSome ∧
      s.orElse (deleteLead s leadId .privacyAdmin 0) ≠ s'.orElse (deleteLead s' leadId .privacyAdmin 0)) ∧
    ∃ (s : State) (lead : Lead) (store : Store), s.Idle ∧ s.store.Constrained ∧
      s.store.lead? lead.id = some lead ∧ s.store.Erases lead.id 0 store ∧
      ∃ service form context draws after result,
        LeadRoutingService.submit service store form context draws = .ok (after, result) ∧
        result.leadId = lead.id ∧ result.idempotentReplay = true := by
  constructor
  · refine ⟨Sample.leads [Sample.uuidLead, Sample.squatter],
      Sample.leads [{ Sample.uuidLead with name := "Grace Hopper" }, Sample.squatter],
      Sample.uuidLead.id, by decide +kernel, by decide +kernel, rfl, by decide +kernel, ?_⟩
    intro same
    have names := congrArg (fun s : Store => s.leads.map Lead.name) same
    revert names
    decide +kernel
  · exact ⟨Sample.idleWith (Sample.leads [Sample.uuidLead]), Sample.uuidLead,
      Sample.leads [Sample.uuidLead.erased 0], ⟨by simp [Sample.idleWith], by simp [Sample.idleWith]⟩,
      by decide +kernel, by decide +kernel, Or.inl ⟨.privacyAdmin, rfl⟩, Sample.service, Sample.tombstoneForm,
      Sample.context, Sample.draws, Sample.leads [Sample.uuidLead.erased 0],
      ⟨Sample.uuidLead.id, .deleted, true, false, []⟩, rfl, rfl, rfl⟩

end RankRent.Leads
