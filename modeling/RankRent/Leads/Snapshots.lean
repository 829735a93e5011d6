import RankRent.Leads.Refreshes
import RankRent.Leads.WriteFence

/-!
# What a transaction read, when it commits

The rows an open transaction of a fenced run read, beside the rows of its
commit: a delivery that was over still is, and the rows the transaction is about
to write are as it read them.
-/

namespace RankRent.Leads

/-- The events of a lead stay while the lead does. -/
def Store.Keeps (s s' : Store) : Prop :=
  ∀ e ∈ s.events, e ∈ s'.events ∨ ∀ lead ∈ s'.leads, lead.id = e.leadId → lead.status = .deleted

/-- The second store follows the first in a fenced run. -/
structure Store.Later (s s' : Store) : Prop where
  deliveries : ∃ f, s'.deliveries = s.deliveries.map f ∧ ∀ d ∈ s.deliveries, SameDelivery d (f d) ∧
    (d.status.nonterminal = false → (f d).status = d.status)
  leads : s'.leads.map Lead.id = s.leads.map Lead.id
  deleted : ∀ lead ∈ s.leads, lead.status = .deleted →
    ∀ lead' ∈ s'.leads, lead'.id = lead.id → lead'.status = .deleted
  events : s.Keeps s'

section Later
variable {s s' s'' : Store}

theorem Store.Later.refl (s : Store) (leads : (s.leads.map Lead.id).Nodup) : s.Later s where
  deliveries := ⟨id, by rw [List.map_id], fun d _ => ⟨⟨rfl, rfl, rfl, rfl⟩, fun _ => rfl⟩⟩
  leads := rfl
  deleted lead member status lead' there same := by
    rw [Table.get_inj leads there member same]
    exact status
  events e member := Or.inl member

theorem Store.Later.trans (first : s.Later s') (second : s'.Later s'') : s.Later s'' where
  deliveries := by
    obtain ⟨f, rows, keeps⟩ := first.deliveries
    obtain ⟨g, rows', keeps'⟩ := second.deliveries
    refine ⟨g ∘ f, by rw [rows', rows, List.map_map], fun d member => ?_⟩
    obtain ⟨same, stays⟩ := keeps d member
    obtain ⟨same', stays'⟩ := keeps' (f d) (by rw [rows]; exact List.mem_map_of_mem member)
    refine ⟨⟨same'.id.trans same.id, same'.leadId.trans same.leadId, same'.deliveryKey.trans same.deliveryKey,
      same'.maxAttempts.trans same.maxAttempts⟩, fun ended => ?_⟩
    have status := stays ended
    rw [← status] at ended ⊢
    exact stays' ended
  leads := second.leads.trans first.leads
  deleted lead member status lead'' there same := by
    have id : lead''.id ∈ s'.leads.map Lead.id := by
      rw [← second.leads]
      exact List.mem_map_of_mem there
    obtain ⟨lead', there', same'⟩ := List.mem_map.mp id
    exact second.deleted lead' there' (first.deleted lead member status lead' there' (same'.trans same)) lead''
      there same'.symm
  events e member := by
    obtain kept | gone := first.events e member
    · exact second.events e kept
    · refine Or.inr fun lead'' there same => ?_
      have id : lead''.id ∈ s'.leads.map Lead.id := by
        rw [← second.leads]
        exact List.mem_map_of_mem there
      obtain ⟨lead', there', same'⟩ := List.mem_map.mp id
      exact second.deleted lead' there' (gone lead' there' (same'.trans same)) lead'' there same'.symm

theorem Store.Moved.later {f : ProviderDelivery → ProviderDelivery} {g : Lead → Lead}
    (moved : s.Moved s' f g) (distinct : (s.leads.map Lead.id).Nodup)
    (events : s.Keeps s') : s.Later s' where
  deliveries := ⟨f, moved.deliveries, fun d member =>
    ⟨(moved.turns d member).keeps, fun ended => ((moved.turns d member).terminal ended).1⟩⟩
  leads := by rw [moved.leads, Table.keys_map moved.ids]
  deleted lead member status lead' there same := by
    rw [moved.leads] at there
    obtain ⟨before, inside, rfl⟩ := List.mem_map.mp there
    rw [moved.ids] at same
    rw [Table.get_inj distinct inside member same]
    exact moved.deleted lead member status
  events := events

/-- The deliveries of a lead are those it had. -/
theorem deliveriesOf_map {f : ProviderDelivery → ProviderDelivery} (rows : s'.deliveries = s.deliveries.map f)
    (keeps : ∀ d ∈ s.deliveries, (f d).leadId = d.leadId) (leadId : String) :
    s'.deliveriesOf leadId = (s.deliveriesOf leadId).map f := by
  rw [Store.deliveriesOf, rows, List.filter_map]
  refine congrArg (List.map f) (List.filter_congr fun d member => ?_)
  simp only [Function.comp, keeps d member]

end Later

/-! ## Events -/

/-- What the rows of a commit add to the events. -/
theorem appendEvents_spec (new events : List LeadEvent) :
    let after := new.foldl (fun events e => events ++ [{ e with id := nextId LeadEvent.id events }]) events
    (∀ e ∈ events, e ∈ after) ∧ (∀ e ∈ new, ∃ id, { e with id := id } ∈ after) ∧
      (∀ e ∈ after, e ∈ events ∨ ∃ e' ∈ new, ∃ id, e = { e' with id := id }) ∧
      ((events.map LeadEvent.id).Nodup → (after.map LeadEvent.id).Nodup) := by
  induction new generalizing events with
  | nil =>
    refine ⟨fun e member => member, ?_, fun e member => Or.inl member, fun distinct => distinct⟩
    intro e member
    cases member
  | cons first new ih =>
    obtain ⟨kept, added, only, distinct⟩ := ih (events ++ [{ first with id := nextId LeadEvent.id events }])
    refine ⟨?_, ?_, ?_, ?_⟩
    · intro e member
      exact kept e (List.mem_append_left _ member)
    · intro e member
      obtain rfl | member := List.mem_cons.mp member
      · exact ⟨_, kept _ (List.mem_append_right _ (List.mem_singleton_self _))⟩
      · exact added e member
    · intro e member
      obtain member | ⟨e', there, id, eq⟩ := only e member
      · obtain member | member := List.mem_append.mp member
        · exact Or.inl member
        · exact Or.inr ⟨first, List.mem_cons_self, _, List.mem_singleton.mp member⟩
      · exact Or.inr ⟨e', List.mem_cons_of_mem _ there, id, eq⟩
    · intro unique
      refine distinct ?_
      rw [List.map_append, List.nodup_append]
      refine ⟨unique, by simp, ?_⟩
      intro n member m last
      simp only [List.map_cons, List.map_nil, List.mem_singleton] at last
      obtain ⟨e, there, rfl⟩ := List.mem_map.mp member
      have := nextId_fresh LeadEvent.id events e there
      omega

/-- A deletion erases the events of its leads and leaves the others. -/
theorem Store.anonymize_events {s s' : Store} {ids : List String} {now : DateTime}
    (distinct : (s.events.map LeadEvent.id).Nodup) (erased : s.anonymize ids now = some s') :
    s'.events = s.events.map fun e => if e.leadId ∈ ids then e.erased else e := by
  simp only [Store.anonymize, Option.bind_eq_bind, Option.bind_eq_some_iff] at erased
  obtain ⟨leads, -, events, flushed, outcomes, -, analytics, -, eq⟩ := erased
  cases eq
  have eq := flushTable_eq distinct (fun e : LeadEvent => show e.erased.id = e.id from rfl) flushed
  simpa using eq

/-! ## Open transactions -/

/-- A transaction of a worker is open with this session. -/
def State.Opened (s : State) (t : Session) : Prop :=
  (∃ run ∈ s.runs, run.phase.session? = some t) ∨ some t ∈ s.recoveries

section Opened
variable {s : State} {t : Session}

theorem beginDelivery_db {db : Store} {lease : DeliveryLease} {adapters : DeliveryChannel → Option String}
    {now : DateTime} {begun : Begun} (begins : beginDelivery db lease adapters now = some begun) :
    begun.session.db = db := by
  obtain ⟨d, -, -, ⟨request, attempt, eq, -⟩ | ⟨errorCode, summary, at_, eq, -⟩⟩ := beginDelivery_some begins
  · rw [eq]
    rfl
  · rw [eq, Session.ending_db]

theorem State.opened_setPhase {e : Nat} {phase : Phase} (opened : (s.setPhase e phase).Opened t) :
    s.Opened t ∨ phase.session? = some t := by
  obtain ⟨run', member, holds⟩ | member := opened
  · obtain ⟨i, found⟩ := List.mem_iff_getElem?.mp member
    obtain ⟨run, at_, ⟨-, rfl⟩ | ⟨-, rfl⟩⟩ := State.runs_setPhase found
    · exact Or.inr holds
    · exact Or.inl (Or.inl ⟨_, List.mem_of_getElem? at_, holds⟩)
  · exact Or.inl (Or.inr member)

/-- The statements that open a transaction read these rows. -/
inductive Session.ReadFrom (t : Session) (db : Store) : Prop
  | begins (lease : DeliveryLease) (adapters : DeliveryChannel → Option String) (now : DateTime)
      (begun : Begun) (begins : beginDelivery db lease adapters now = some begun)
      (session : begun.session = t)
  | finishes (lease : DeliveryLease) (number : Nat) (outcome : AdapterOutcome) (base maximum : ℚ)
      (now : DateTime) (alert : Option Alert)
      (finishes : finishDelivery db lease number outcome base maximum now = some (t, alert))
  | recovers (locked : List String) (staleAfterSeconds : ℚ) (now : DateTime)
      (session : recoverStaleDeliveries db locked staleAfterSeconds now = t)

theorem Session.ReadFrom.db {db : Store} (read : t.ReadFrom db) : t.db = db := by
  cases read with
  | begins lease adapters now begun begins session =>
    rw [← session]
    exact beginDelivery_db begins
  | finishes lease number outcome base maximum now alert finishes =>
    obtain ⟨d, attempt, new, ended, -, -, -, eq, -⟩ := finishDelivery_some finishes
    rw [eq, Session.ending_db]
  | recovers locked staleAfterSeconds now session =>
    rw [← session]
    exact Session.recovering_db _ _ _

/-- A transaction that is open after a step was open before, or has read the
rows as they are. -/
theorem State.opened_apply (op : Op) (opened : (s.apply op).Opened t) :
    s.Opened t ∨ t.ReadFrom s.store ∧ (s.apply op).store = s.store := by
  have closes {e : Nat} (opened : (s.setPhase e .closed).Opened t) : s.Opened t := by
    obtain before | none := State.opened_setPhase opened
    · exact before
    · cases none
  have drops {r : Nat} {store : Store}
      (opened : State.Opened { s with store := store, recoveries := s.recoveries.set r none } t) : s.Opened t := by
    obtain run | member := opened
    · exact Or.inl run
    · obtain ⟨i, found⟩ := List.mem_iff_getElem?.mp member
      obtain ⟨-, none⟩ | ⟨-, there⟩ := Table.getElem?_set_cases found
      · cases none
      · exact Or.inr (List.mem_of_getElem? there)
  cases op with
  | claim id workerId leaseToken leaseSeconds now =>
    refine Or.inl ?_
    simp only [State.apply, State.claim] at opened
    split at opened
    · exact opened
    · split at opened
      · obtain ⟨run, member, holds⟩ | member := opened
        · obtain member | member := List.mem_append.mp member
          · exact Or.inl ⟨run, member, holds⟩
          · rw [List.mem_singleton] at member
            rw [member] at holds
            cases holds
        · exact Or.inr member
      · exact opened
  | heartbeat e leaseSeconds now =>
    refine Or.inl ?_
    simp only [State.apply, State.heartbeat] at opened
    repeat' split at opened
    all_goals exact opened
  | begin e adapters now =>
    simp only [State.apply, State.begin] at opened ⊢
    split at opened
    · exact Or.inl opened
    · split at opened
      · split at opened
        · exact Or.inl (closes opened)
        · rename_i begun begins
          obtain before | same := State.opened_setPhase opened
          · exact Or.inl before
          · exact Or.inr ⟨.begins _ _ _ begun begins (Option.some.inj same), rfl⟩
      · exact Or.inl opened
  | finish e outcome base maximum now =>
    simp only [State.apply, State.finish] at opened ⊢
    split at opened
    · exact Or.inl opened
    · split at opened
      · split at opened
        · exact Or.inl (closes opened)
        · rename_i session alert finishes
          obtain before | same := State.opened_setPhase opened
          · exact Or.inl before
          · cases same
            exact Or.inr ⟨.finishes _ _ _ _ _ _ _ finishes, rfl⟩
      · exact Or.inl opened
  | commit e =>
    refine Or.inl ?_
    simp only [State.apply, State.commit] at opened
    split at opened
    · exact opened
    · split at opened
      · exact opened
      · split at opened
        · unfold State.commitBegun at opened
          split at opened
          · exact closes opened
          · split at opened
            · rename_i request number _
              have opened : (s.setPhase e (.delivering number)).Opened t := opened
              obtain before | none := State.opened_setPhase opened
              · exact before
              · cases none
            · exact closes opened
        · unfold State.commitFinished at opened
          split at opened
          · exact closes opened
          · exact closes opened
        · exact opened
  | crash e => exact Or.inl (closes opened)
  | recover staleAfterSeconds now =>
    obtain run | member := opened
    · exact Or.inl (Or.inl run)
    · obtain member | member := List.mem_append.mp member
      · exact Or.inl (Or.inr member)
      · rw [List.mem_singleton] at member
        exact Or.inr ⟨.recovers s.locked staleAfterSeconds now (Option.some.inj member).symm, rfl⟩
  | commitRecovery r =>
    refine Or.inl ?_
    simp only [State.apply] at opened
    split at opened
    · exact drops opened
    · exact opened
  | crashRecovery r => exact Or.inl (drops opened)
  | deleteLead leadId role now =>
    refine Or.inl ?_
    simp only [State.apply, State.deleteLead] at opened
    split at opened <;> exact opened
  | assign assignments => exact Or.inl opened

theorem State.committing_opened {op : Op} (commits : s.committing op = some t) : s.Opened t := by
  cases op with
  | commit e =>
    obtain ⟨run, at_, opened⟩ := Option.bind_eq_some_iff.mp commits
    exact Or.inl ⟨run, List.mem_of_getElem? at_, opened⟩
  | commitRecovery r => exact Or.inr (List.mem_of_getElem? (Option.join_eq_some_iff.mp commits))
  | _ => cases commits

end Opened

/-- What the session of an open transaction is at its commit. -/
structure Session.Holds (t : Session) (s : Store) : Prop where
  rows : ∀ new ∈ t.deliveries, ∃ d ∈ s.deliveries, ∃ loaded, d.id = new.id ∧ new.leadId = d.leadId ∧
    d.status.active = true ∧ t.db.delivery? new.id = some loaded ∧ SameQueue loaded d ∧
    Table.get ProviderDelivery.id t.deliveries new.id = some new
  leads : ∀ lead ∈ t.leads, ∃ new ∈ t.deliveries, new.leadId = lead.id
  refreshed : t.Refreshed fun _ => False

section Holds
variable {t : Session} {s : Store}

theorem Session.Holds.single {new loaded d : ProviderDelivery} (only : t.deliveries = [new])
    (there : d ∈ s.deliveries) (active : d.status.active = true) (read : t.db.delivery? d.id = some loaded)
    (same : SameQueue loaded d) (keeps : SameDelivery loaded new)
    (leads : ∀ lead ∈ t.leads, lead.id = loaded.leadId) (refreshed : t.Refreshed fun _ => False) : t.Holds s where
  rows e member := by
    rw [only, List.mem_singleton] at member
    subst member
    have id : d.id = e.id := same.id.trans keeps.id.symm
    refine ⟨d, there, loaded, id, keeps.leadId.trans same.leadId.symm, active, ?_, same, ?_⟩
    · rw [← id]
      exact read
    · rw [only]
      simp [Table.get]
  leads lead member := by
    refine ⟨new, ?_, keeps.leadId.trans (leads lead member).symm⟩
    rw [only]
    exact List.mem_singleton_self new
  refreshed := refreshed

theorem Session.Recovers.holds {rows : List ProviderDelivery} {now : DateTime} (recovers : t.Recovers s rows now)
    (distinct : (t.db.deliveries.map ProviderDelivery.id).Nodup) : t.Holds s := by
  have deliveries : t.deliveries = (rows.map (ProviderDelivery.recovered · now)).reverse := by
    rw [recovers.session, Session.recovering_deliveries]
  have held : ∀ d ∈ rows, d.recovered now ∈ t.deliveries := by
    intro d member
    rw [deliveries, List.mem_reverse]
    exact List.mem_map_of_mem member
  constructor
  · intro new member
    rw [deliveries, List.mem_reverse] at member
    obtain ⟨d, there, rfl⟩ := List.mem_map.mp member
    rw [ProviderDelivery.recovered_id]
    exact ⟨d, recovers.stored d there, d, rfl, d.recovered_leadId now, recovers.active d there, recovers.read d there,
      SameQueue.refl d, recovers.held there⟩
  · intro lead member
    rw [recovers.session] at member
    obtain ⟨-, d, there, id⟩ := Session.recovering_leads _ _ _ member
    exact ⟨_, held d there, (d.recovered_leadId now).trans id.symm⟩
  · rw [recovers.session]
    exact Session.recovering_refreshed distinct (fun d member => Store.delivery?_mem (recovers.read d member)) now

/-- The session of a transaction that is open in a fenced run. -/
theorem State.Fenced.session_holds {s : State} (fenced : s.Fenced) {op : Op}
    (commits : s.committing op = some t) (distinct : (t.db.deliveries.map ProviderDelivery.id).Nodup) :
    t.Holds s.store := by
  cases op with
  | commit e =>
    obtain ⟨run, at_, opened⟩ := Option.bind_eq_some_iff.mp commits
    have fits := fenced.phases run (List.mem_of_getElem? at_)
    unfold Execution.Fits at fits
    cases phase : run.phase with
    | beginning begun =>
      rw [phase] at opened
      cases opened
      simp only [phase] at fits
      obtain ⟨d, loaded, found, owns, leased, read, loads, shape⟩ := fits
      have there := Store.delivery?_mem found
      have active := (ProviderDelivery.owns_iff.mp owns).1
      obtain starts | ⟨errorCode, summary, now, eq, -⟩ := shape
      · have refreshed := starts.refreshed
        obtain ⟨request, attempt, eq, -⟩ := starts
        have only : begun.session.deliveries =
            [{ loaded with attemptCount := loaded.attemptCount + 1, status := .delivering }] := by
          rw [eq]
          rfl
        refine .single only there active read loads ⟨rfl, rfl, rfl, rfl⟩ ?_ refreshed
        intro lead member
        rw [eq] at member
        cases member
      · have only : begun.session.deliveries = [loaded.failed errorCode summary now] := by
          rw [eq, Session.ending_deliveries]
        refine .single only there active read loads ⟨rfl, rfl, rfl, rfl⟩ ?_ ?_
        · intro lead member
          rw [eq] at member
          exact (Session.ending_leads _ _ _ _ _ member).1
        · rw [eq]
          exact Session.ending_refreshed _ _ (loaded.failed errorCode summary now) now
    | finishing session alert =>
      rw [phase] at opened
      cases opened
      simp only [phase] at fits
      obtain ⟨d, loaded, new, attempt, ended, now, found, owns, delivering, read, loads, shape, settles, -⟩ := fits
      have only : t.deliveries = [new] := by rw [shape, Session.ending_deliveries]
      refine .single only (Store.delivery?_mem found) (ProviderDelivery.owns_iff.mp owns).1 read loads
        settles.same ?_ ?_
      · intro lead member
        rw [shape] at member
        exact (Session.ending_leads _ _ _ _ _ member).1
      · rw [shape, ← settles.same.leadId]
        exact Session.ending_refreshed _ _ new now
    | claimed => rw [phase] at opened; cases opened
    | delivering number => rw [phase] at opened; cases opened
    | closed => rw [phase] at opened; cases opened
  | commitRecovery r =>
    obtain ⟨rows, now, recovers⟩ := fenced.recoveries r t (Option.join_eq_some_iff.mp commits)
    exact recovers.holds distinct
  | _ => cases commits

/-- What the commit leaves of a row it writes has the status the session gave it. -/
theorem Session.Holds.written (holds : t.Holds s) (distinct : (s.deliveries.map ProviderDelivery.id).Nodup)
    {new d : ProviderDelivery} (member : new ∈ t.deliveries) (there : d ∈ s.deliveries) (same : d.id = new.id) :
    (t.writeDelivery d).status = new.status ∧ d.status.active = true ∧ new.leadId = d.leadId := by
  obtain ⟨d', there', loaded, id, leadId, active, read, queue, held⟩ := holds.rows new member
  obtain rfl : d = d' := Table.get_inj distinct there there' (same.trans id.symm)
  refine ⟨?_, active, leadId⟩
  rw [Session.writeDelivery_of (by rw [same]; exact held) (by rw [same]; exact read)]
  simp only [ProviderDelivery.flush, queue.status, written_self]

end Holds

end RankRent.Leads
