import RankRent.Leads.LeadStatus

/-!
# Alerts for failed leads

`run_delivery_by_id` alerts the operator when `_fail_delivery` says that the lead
failed with its delivery. `recover_stale_deliveries` fails leads too, and drops
what `_refresh_lead_state` answers.
-/

namespace RankRent.Leads

theorem routingStatus_failed {rows : List ProviderDelivery} : routingStatus rows = .deliveryFailed ↔
    ∀ d ∈ rows, d.status.nonterminal = false ∧ d.status ≠ .delivered := by
  unfold routingStatus
  constructor
  · intro failed d member
    split at failed
    · cases failed
    · rename_i ended
      split at failed
      · cases failed
      · rename_i none
        simp only [List.any_eq_true, decide_eq_true_eq, not_exists, not_and] at ended none
        exact ⟨by simpa using ended d member, none d member⟩
  · intro all
    rw [if_neg, if_neg]
    · rw [List.any_eq_true]
      rintro ⟨d, member, delivered⟩
      exact (all d member).2 (of_decide_eq_true delivered)
    · rw [List.any_eq_true]
      rintro ⟨d, member, nonterminal⟩
      rw [(all d member).1] at nonterminal
      cases nonterminal

/-! ## What a transaction tells of the leads it failed -/

/-- The alert names the lead that the session fails, if it fails one. -/
structure Session.Warns (t : Session) (alert : Option Alert) : Prop where
  raised : ∀ a ∈ alert, ∃ lead, Table.get Lead.id t.leads a.leadId = some lead ∧ lead.status = .deliveryFailed
  failed : ∀ lead ∈ t.leads, lead.status = .deliveryFailed → ∃ a ∈ alert, a.leadId = lead.id

/-- A session without an alert fails no lead. -/
theorem Session.Warns.silent {t : Session} (unfailed : ∀ lead ∈ t.leads, lead.status ≠ .deliveryFailed) :
    t.Warns none where
  raised a member := by cases member
  failed lead member failed := absurd failed (unfailed lead member)

section Warns
variable {t : Session} {db : Store} {d new : ProviderDelivery} {attempts : List RoutingAttempt} {now : DateTime}

theorem Session.refreshLeadState_snd (t : Session) (leadId : String) (now : DateTime) {lead : Lead}
    (found : t.lead? leadId = some lead) : (t.refreshLeadState leadId now).2 =
      decide (routingStatus ((t.db.deliveriesOf leadId).map t.held) = .deliveryFailed) := by
  unfold Session.refreshLeadState
  rw [found]
  dsimp only
  cases routingStatus ((t.db.deliveriesOf leadId).map t.held) <;> rfl

theorem Session.failDelivery_snd (t : Session) (d : ProviderDelivery) (errorCode summary : String)
    (now : DateTime) : (t.failDelivery d errorCode summary now).2 =
      if ((t.putDelivery (d.failed errorCode summary now)).refreshLeadState d.leadId now).2 then
        ((t.failDelivery d errorCode summary now).1.lead? d.leadId).map fun lead =>
          ⟨lead.propertyId, lead.id, "all_deliveries_failed"⟩
      else none := by
  rw [Session.failDelivery_fst]
  unfold Session.failDelivery
  generalize (t.putDelivery (d.failed errorCode summary now)).refreshLeadState d.leadId now = refreshed
  dsimp only
  split <;> rfl

/-- The end of a failed delivery alerts for the lead just if the lead failed too. -/
theorem Session.failDelivery_warns (t : Session) (d : ProviderDelivery) (errorCode summary : String)
    (now : DateTime) (empty : t.leads = []) :
    (t.failDelivery d errorCode summary now).1.Warns (t.failDelivery d errorCode summary now).2 := by
  rw [Session.failDelivery_snd, Session.failDelivery_fst]
  generalize eq : t.putDelivery (d.failed errorCode summary now) = t'
  have empty' : t'.leads = [] := by
    rw [← eq]
    exact empty
  cases found : t'.lead? d.leadId with
  | none =>
    have same : t'.refreshLeadState d.leadId now = (t', false) := by
      unfold Session.refreshLeadState
      rw [found]
    rw [same, if_neg Bool.false_ne_true]
    refine .silent fun lead member => ?_
    rw [empty'] at member
    cases member
  | some lead =>
    obtain ⟨leads, -⟩ := t'.refreshLeadState_found d.leadId now found
    have told := t'.refreshLeadState_snd d.leadId now found
    have id : lead.id = d.leadId := Session.lead?_id found
    rw [empty'] at leads
    rw [told]
    by_cases failed : routingStatus ((t'.db.deliveriesOf d.leadId).map t'.held) = .deliveryFailed
    · rw [failed] at leads
      rw [decide_eq_true failed, if_pos rfl]
      have held : (t'.refreshLeadState d.leadId now).1.lead? d.leadId =
          some { lead with status := .deliveryFailed } := by
        rw [Session.lead?, leads]
        simp [Table.get, id]
      rw [held, Option.map_some]
      constructor
      · intro a member
        rw [Option.mem_some_iff] at member
        subst member
        rw [leads]
        exact ⟨_, List.find?_cons_of_pos (decide_eq_true rfl), rfl⟩
      · intro lead' member _
        rw [leads, List.mem_singleton] at member
        subst member
        exact ⟨_, rfl, rfl⟩
    · rw [decide_eq_false failed, if_neg (by decide)]
      refine .silent fun lead' member => ?_
      rw [leads, List.mem_singleton] at member
      subst member
      exact failed

/-- A session that leaves its delivery on its way, or delivered, fails no lead. -/
theorem Session.ending_silent (there : d ∈ db.deliveries) (same : SameDelivery d new)
    (live : new.status.nonterminal = true ∨ new.status = .delivered) :
    (Session.ending db attempts new d.leadId now).Warns none := by
  refine .silent fun lead member failed => ?_
  let t : Session := { Session.opened db with attempts := attempts }.putDelivery new
  have held : new ∈ (t.db.deliveriesOf d.leadId).map t.held := by
    refine List.mem_map.mpr ⟨d, List.mem_filter.mpr ⟨there, decide_eq_true rfl⟩, ?_⟩
    simp [t, Session.held, Session.putDelivery, Session.opened, Table.get, same.id]
  change lead ∈ (t.refreshLeadState d.leadId now).1.leads at member
  cases found : t.lead? d.leadId with
  | none =>
    have unchanged : t.refreshLeadState d.leadId now = (t, false) := by
      unfold Session.refreshLeadState
      rw [found]
    rw [unchanged] at member
    cases member
  | some stored =>
    obtain ⟨leads, -⟩ := t.refreshLeadState_found d.leadId now found
    rw [leads] at member
    obtain rfl | member := List.mem_cons.mp member
    · obtain ⟨ended, undelivered⟩ := routingStatus_failed.mp failed new held
      obtain nonterminal | delivered := live
      · rw [ended] at nonterminal
        cases nonterminal
      · exact undelivered delivered
    · cases member

theorem Session.retryOrFail_warns (there : d ∈ db.deliveries) (attempt : RoutingAttempt) (base maximum : ℚ)
    (now : DateTime) : ((Session.opened db).retryOrFail d attempt base maximum now).1.Warns
      ((Session.opened db).retryOrFail d attempt base maximum now).2 := by
  unfold Session.retryOrFail
  dsimp only
  split
  · exact Session.failDelivery_warns _ _ _ _ _ rfl
  · exact Session.ending_silent there ⟨rfl, rfl, rfl, rfl⟩ (Or.inl rfl)

/-- Every branch of the last block alerts for the lead that it fails. -/
theorem Session.settle_warns (there : d ∈ db.deliveries) (attempt : RoutingAttempt) (outcome : AdapterOutcome)
    (base maximum : ℚ) (now : DateTime) : ((Session.opened db).settle d attempt outcome base maximum now).1.Warns
      ((Session.opened db).settle d attempt outcome base maximum now).2 := by
  cases outcome with
  | retryableError => exact Session.retryOrFail_warns there attempt base maximum now
  | error => exact Session.failDelivery_warns _ _ _ _ _ rfl
  | returned result =>
    simp only [Session.settle]
    split
    · exact Session.ending_silent there ⟨rfl, rfl, rfl, rfl⟩ (Or.inr rfl)
    · split
      · exact Session.retryOrFail_warns there attempt base maximum now
      · exact Session.failDelivery_warns _ _ _ _ _ rfl

theorem finishDelivery_warns {lease : DeliveryLease} {number : Nat} {outcome : AdapterOutcome}
    {base maximum : ℚ} {alert : Option Alert}
    (finishes : finishDelivery db lease number outcome base maximum now = some (t, alert)) : t.Warns alert := by
  unfold finishDelivery at finishes
  split at finishes
  · cases finishes
  · rename_i d found
    repeat' split at finishes
    · cases finishes
    · cases finishes
    · rename_i attempt _
      have warns := Session.settle_warns (Store.delivery?_mem found) attempt outcome base maximum now
      rw [Option.some.inj finishes] at warns
      exact warns

/-- The alert that follows the commit of the first block. -/
def Begun.warning (begun : Begun) : Option Alert := if begun.request.isSome then none else begun.alert

theorem beginDelivery_warns {lease : DeliveryLease} {adapters : DeliveryChannel → Option String} {begun : Begun}
    (begins : beginDelivery db lease adapters now = some begun) : begun.session.Warns begun.warning := by
  unfold beginDelivery at begins
  split at begins
  · cases begins
  · split at begins
    · cases begins
    · split at begins
      · cases begins
        exact (Session.opened db).failDelivery_warns _ _ _ _ rfl
      · cases begins
        exact .silent fun lead member => by cases member

end Warns

/-! ## Steps -/

/-- The alerts that are sent between two states. -/
def State.sends (s s' : State) : List Alert := s'.alerts.drop s.alerts.length

/-- The lead becomes `delivery_failed`. -/
def State.Fails (s s' : State) (leadId : String) : Prop :=
  ∃ before after, s.store.lead? leadId = some before ∧ s'.store.lead? leadId = some after ∧
    before.status ≠ .deliveryFailed ∧ after.status = .deliveryFailed

/-- One alert for every lead that fails, and none for a lead with a delivery that
is delivered or on its way. -/
structure State.Alerted (s s' : State) : Prop where
  appended : s'.alerts = s.alerts ++ s.sends s'
  once : ∀ leadId, s.Fails s' leadId → ((s.sends s').filter fun a => a.leadId = leadId).length = 1
  failed : ∀ a ∈ s.sends s', s.Fails s' a.leadId
  ended : ∀ a ∈ s.sends s', ∀ d ∈ s'.store.deliveriesOf a.leadId,
    d.status.nonterminal = false ∧ d.status ≠ .delivered

section Steps
variable {s s' m : State}

theorem State.sends_of {alerts : List Alert} (appended : s'.alerts = s.alerts ++ alerts) : s.sends s' = alerts := by
  rw [State.sends, appended, List.drop_left]

theorem State.Alerted.quiet (alerts : s'.alerts = s.alerts) (none : ∀ leadId, ¬ s.Fails s' leadId) :
    s.Alerted s' := by
  have empty : s.sends s' = [] := State.sends_of (by rw [alerts, List.append_nil])
  constructor
  · rw [empty, alerts, List.append_nil]
  · intro leadId failed
    exact absurd failed (none leadId)
  · rw [empty]
    intro a member
    cases member
  · rw [empty]
    intro a member
    cases member

/-- A read sends nothing and changes no row. -/
theorem State.Alerted.of_read (alerted : m.Alerted s') (store : m.store = s.store) (alerts : m.alerts = s.alerts) :
    s.Alerted s' := by
  have same : s.sends s' = m.sends s' := by rw [State.sends, State.sends, alerts]
  have fails : ∀ leadId, s.Fails s' leadId ↔ m.Fails s' leadId := fun leadId => by
    rw [State.Fails, State.Fails, store]
  constructor
  · rw [same, ← alerts]
    exact alerted.appended
  · intro leadId failed
    rw [same]
    exact alerted.once leadId ((fails leadId).mp failed)
  · rw [same]
    exact fun a member => (fails a.leadId).mpr (alerted.failed a member)
  · rw [same]
    exact alerted.ended

theorem State.not_fails_of_leads (leads : s'.store.leads = s.store.leads) (leadId : String) :
    ¬ s.Fails s' leadId := by
  rintro ⟨before, after, found, found', unfailed, failed⟩
  rw [Store.lead?, leads] at found'
  rw [Store.lead?, found'] at found
  cases found
  exact unfailed failed

section Commit
variable {op : Op} {t : Session} {store : Store} {leadId : String}

/-- A lead that a transaction holds at its commit, if it committed as it read. -/
theorem State.Aligned.commit_lead (aligned : s.Aligned) (commits : s.committing op = some t)
    (read : t.db = s.store) (written : t.commit s.store = some store) {new : Lead}
    (held : Table.get Lead.id t.leads leadId = some new) :
    ∃ before after, s.store.lead? leadId = some before ∧ store.lead? leadId = some after ∧
      before.status = .routing ∧ after.status = new.status := by
  have fenced := aligned.safe.fenced
  have holds := fenced.session_holds commits (by rw [read]; exact fenced.sound.unique.ids)
  have moved := fenced.commit_moved aligned.safe.withdrawn commits written
  have id : new.id = leadId := Table.get_key held
  obtain ⟨before, known⟩ := holds.refreshed.known new (Table.get_mem held)
  rw [id] at known
  obtain ⟨row, member, of⟩ := holds.leads new (Table.get_mem held)
  obtain ⟨d, there, -, -, leadId', active, -⟩ := holds.rows row member
  have routing : before.status = .routing := by
    refine aligned.settled.routing aligned.safe.withdrawn there active (Table.get_mem (read ▸ known)) ?_
    rw [← leadId', of, id, Store.lead?_id known]
  have stored : s.store.lead? leadId = some before := read ▸ known
  refine ⟨before, t.writeLead before, stored, ?_, routing, ?_⟩
  · rw [Store.lead?, moved.leads, Table.get_map moved.ids]
    rw [Store.lead?] at stored
    rw [stored]
    rfl
  · have key : before.id = leadId := Store.lead?_id known
    simp only [Session.writeLead, key, held, known, Lead.flush, written_self]

theorem State.Aligned.commit_other (aligned : s.Aligned) (commits : s.committing op = some t)
    (written : t.commit s.store = some store) (missing : Table.get Lead.id t.leads leadId = none) :
    store.lead? leadId = s.store.lead? leadId := by
  have moved := aligned.safe.fenced.commit_moved aligned.safe.withdrawn commits written
  rw [Store.lead?, moved.leads, Table.get_map moved.ids, Store.lead?]
  cases found : Table.get Lead.id s.store.leads leadId with
  | none => rfl
  | some lead =>
    have id : lead.id = leadId := Table.get_key found
    rw [Option.map_some, Session.writeLead, id, missing]

/-- A commit that is followed by the alert of its session. -/
theorem State.Aligned.commit_alerted (aligned : s.Aligned) (commits : s.committing op = some t)
    (read : t.db = s.store) (written : t.commit s.store = some store) {alert : Option Alert}
    (warns : t.Warns alert) (settled : store.Settled) (stored : s'.store = store)
    (alerts : s'.alerts = s.alerts ++ alert.toList) : s.Alerted s' := by
  have sends := State.sends_of alerts
  constructor
  · rw [sends, alerts]
  · rintro leadId ⟨before, after, found, found', unfailed, failed⟩
    rw [stored] at found'
    cases held : Table.get Lead.id t.leads leadId with
    | none =>
      rw [aligned.commit_other commits written held, found] at found'
      cases found'
      exact absurd failed unfailed
    | some new =>
      obtain ⟨before', after', -, there, -, status⟩ := aligned.commit_lead commits read written held
      rw [found'] at there
      cases there
      obtain ⟨a, raised, of⟩ := warns.failed new (Table.get_mem held) (status.symm.trans failed)
      have id : a.leadId = leadId := of.trans (Table.get_key held)
      rw [sends, Option.mem_def.mp raised]
      simp [id]
  · intro a member
    rw [sends, Option.mem_toList] at member
    obtain ⟨lead, held, failed⟩ := warns.raised a member
    obtain ⟨before, after, found, found', routing, status⟩ := aligned.commit_lead commits read written held
    refine ⟨before, after, found, by rw [stored]; exact found', ?_, status.trans failed⟩
    rw [routing]
    decide
  · intro a member
    rw [sends, Option.mem_toList] at member
    obtain ⟨lead, held, failed⟩ := warns.raised a member
    obtain ⟨-, after, -, found', -, status⟩ := aligned.commit_lead commits read written held
    have is : after.status = .deliveryFailed := status.trans failed
    have id : after.id = a.leadId := Store.lead?_id found'
    intro d inside
    rw [stored] at inside
    rw [← id] at inside
    have alive : after.status ≠ .deleted := by
      rw [is]
      decide
    have routed := settled.status after (Table.get_mem found') alive (List.ne_nil_of_mem inside)
    rw [is] at routed
    exact routingStatus_failed.mp routed.symm d inside

end Commit

/-! ## The two blocks -/

/-- The alert that follows the commit of an open transaction. -/
def Phase.warning : Phase → Option Alert
  | .beginning begun => begun.warning
  | .finishing _ alert => alert
  | _ => none

theorem State.commit_sends (s : State) (e : Nat) (run : Execution) :
    ((s.commit e run).store = s.store ∧ (s.commit e run).alerts = s.alerts) ∨
      ∃ t store, run.phase.session? = some t ∧ t.commit s.store = some store ∧ (s.commit e run).store = store ∧
        (s.commit e run).alerts = s.alerts ++ run.phase.warning.toList := by
  unfold State.commit
  split
  · exact Or.inl ⟨rfl, rfl⟩
  · split
    · rename_i begun phase
      unfold State.commitBegun
      split
      · exact Or.inl ⟨rfl, rfl⟩
      · rename_i store committed
        refine Or.inr ⟨begun.session, store, by rw [phase]; rfl, committed, ?_⟩
        rw [phase, Phase.warning, Begun.warning]
        split
        · rename_i requested
          rw [requested]
          exact ⟨rfl, (List.append_nil _).symm⟩
        · rename_i requested
          rw [requested]
          exact ⟨rfl, rfl⟩
    · rename_i session alert phase
      unfold State.commitFinished
      split
      · exact Or.inl ⟨rfl, rfl⟩
      · rename_i store committed
        refine Or.inr ⟨session, store, by rw [phase]; rfl, committed, rfl, ?_⟩
        rw [phase]
        rfl
    · exact Or.inl ⟨rfl, rfl⟩

/-- Every open transaction has the alert for the lead it fails. -/
def State.Warned (s : State) : Prop :=
  ∀ run ∈ s.runs, ∀ t, run.phase.session? = some t → t.Warns run.phase.warning

theorem State.Warned.setPhase (warned : s.Warned) (e : Nat) {phase : Phase}
    (warns : ∀ t, phase.session? = some t → t.Warns phase.warning) : (s.setPhase e phase).Warned := by
  intro run member t opened
  obtain ⟨i, found⟩ := List.mem_iff_getElem?.mp member
  obtain ⟨before, at_, ⟨-, rfl⟩ | ⟨-, rfl⟩⟩ := State.runs_setPhase found
  · exact warns t opened
  · exact warned run (List.mem_of_getElem? at_) t opened

theorem State.Idle.warned (idle : s.Idle) : s.Warned := by
  intro run member t opened
  rw [idle.runs run member] at opened
  cases opened

theorem State.Idle.begin_warned (idle : s.Idle) (e : Nat) (adapters : DeliveryChannel → Option String)
    (now : DateTime) : (s.apply (.begin e adapters now)).Warned ∧
      (s.apply (.begin e adapters now)).alerts = s.alerts := by
  simp only [State.apply]
  split
  · exact ⟨idle.warned, rfl⟩
  · unfold State.begin
    split
    · split
      · exact ⟨idle.warned.setPhase e (fun t opened => by cases opened), rfl⟩
      · rename_i begun begins
        refine ⟨idle.warned.setPhase e fun t opened => ?_, rfl⟩
        cases opened
        exact beginDelivery_warns begins
    · exact ⟨idle.warned, rfl⟩

theorem State.Idle.finish_warned (idle : s.Idle) (e : Nat) (outcome : AdapterOutcome) (base maximum : ℚ)
    (now : DateTime) : (s.apply (.finish e outcome base maximum now)).Warned ∧
      (s.apply (.finish e outcome base maximum now)).alerts = s.alerts := by
  simp only [State.apply]
  split
  · exact ⟨idle.warned, rfl⟩
  · unfold State.finish
    split
    · split
      · exact ⟨idle.warned.setPhase e (fun t opened => by cases opened), rfl⟩
      · rename_i session alert finishes
        refine ⟨idle.warned.setPhase e fun t opened => ?_, rfl⟩
        cases opened
        exact finishDelivery_warns finishes
    · exact ⟨idle.warned, rfl⟩

theorem State.Idle.not_opened (idle : s.Idle) (t : Session) : ¬ s.Opened t := by
  rintro (⟨run, member, opened⟩ | member)
  · rw [idle.runs run member] at opened
    cases opened
  · cases idle.recoveries _ member

/-- A transaction that is read between commits commits on the rows it read. -/
theorem State.Idle.current (idle : s.Idle) (read : Op) {op : Op} {t : Session}
    (commits : (s.apply read).committing op = some t) : t.db = (s.apply read).store := by
  obtain before | ⟨from_, same⟩ := State.opened_apply read (State.committing_opened commits)
  · exact absurd before (idle.not_opened t)
  · rw [from_.db, same]

theorem State.Idle.current_op (idle : s.Idle) (read op : Op) : (s.apply read).Current op := by
  intro t commits leadId _ awaits
  rw [← idle.current read commits]
  exact awaits

/-- The commit of a block of `run_delivery_by_id`, read between commits. -/
theorem State.Aligned.block_alerted (aligned : m.Aligned) (warned : m.Warned) (e : Nat)
    (read : ∀ t, m.committing (.commit e) = some t → t.db = m.store) (current : m.Current (.commit e)) :
    m.Alerted (m.apply (.commit e)) := by
  obtain ⟨-, settled⟩ := aligned.settles current
  cases at_ : m.runs[e]? with
  | none =>
    have same : m.apply (.commit e) = m := by simp only [State.apply, at_]
    rw [same]
    exact .quiet rfl (State.not_fails_of_leads rfl)
  | some run =>
    have is : m.apply (.commit e) = m.commit e run := by simp only [State.apply, at_]
    rw [is] at settled ⊢
    obtain ⟨store, alerts⟩ | ⟨t, store, opened, committed, stored, alerts⟩ := m.commit_sends e run
    · exact .quiet alerts (State.not_fails_of_leads (by rw [store]))
    · have commits : m.committing (.commit e) = some t := by
        simp only [State.committing, at_, Option.bind_some, opened]
      have warns := warned run (List.mem_of_getElem? at_) t opened
      rw [stored] at settled
      exact aligned.commit_alerted commits (read t commits) committed warns settled stored alerts

/-- A step that commits no transaction of a worker keeps the leads aligned. -/
theorem State.Aligned.step (aligned : s.Aligned) {op : Op} (allowed : s.Allows op)
    (none : s.committing op = none) : (s.apply op).Aligned := by
  refine aligned.apply allowed fun t commits => ?_
  rw [none] at commits
  cases commits

theorem State.unnamed (s : State) : s.Unused none := by
  rintro _ ⟨⟩

theorem State.Aligned.begin (aligned : s.Aligned) (e : Nat) (adapters : DeliveryChannel → Option String)
    (now : DateTime) : (s.apply (.begin e adapters now)).Aligned := by
  have allowed : s.Allows (.begin e adapters now) := ⟨s.unnamed, trivial⟩
  exact aligned.step allowed rfl

theorem State.Aligned.finish (aligned : s.Aligned) (e : Nat) (outcome : AdapterOutcome) (base maximum : ℚ)
    (now : DateTime) : (s.apply (.finish e outcome base maximum now)).Aligned := by
  have allowed : s.Allows (.finish e outcome base maximum now) := ⟨s.unnamed, trivial⟩
  exact aligned.step allowed rfl

theorem State.Aligned.recover (aligned : s.Aligned) (staleAfterSeconds : ℚ) (now : DateTime) :
    (s.apply (.recover staleAfterSeconds now)).Aligned := by
  have allowed : s.Allows (.recover staleAfterSeconds now) := ⟨s.unnamed, trivial⟩
  exact aligned.step allowed rfl

end Steps

/-! ## Recoveries -/

/-- The worker was lost while the provider was called. -/
def ProviderDelivery.lost (d : ProviderDelivery) (staleAfterSeconds : ℚ) (now : DateTime) : Bool :=
  d.stale staleAfterSeconds now && d.status = .delivering

/-- All that was still open of the lead is lost, and nothing is delivered. -/
def Store.Strands (s : Store) (leadId : String) (staleAfterSeconds : ℚ) (now : DateTime) : Prop :=
  (∃ d ∈ s.deliveriesOf leadId, d.lost staleAfterSeconds now = true) ∧
    ∀ d ∈ s.deliveriesOf leadId, d.lost staleAfterSeconds now = true ∨
      d.status.nonterminal = false ∧ d.status ≠ .delivered

instance (s : Store) (leadId : String) (staleAfterSeconds : ℚ) (now : DateTime) :
    Decidable (s.Strands leadId staleAfterSeconds now) :=
  decidable_of_iff ((∃ d ∈ s.deliveriesOf leadId, d.lost staleAfterSeconds now = true) ∧
    ∀ d ∈ s.deliveriesOf leadId, d.lost staleAfterSeconds now = true ∨
      d.status.nonterminal = false ∧ d.status ≠ .delivered) Iff.rfl

section Recovery
variable {s : State} {staleAfterSeconds : ℚ} {now : DateTime}

theorem ProviderDelivery.recovered_ended (d : ProviderDelivery) (now : DateTime) :
    (d.recovered now).status.nonterminal = false ∧ (d.recovered now).status ≠ .delivered ↔
      d.status = .delivering := by
  unfold ProviderDelivery.recovered
  split
  · rename_i delivering
    refine iff_of_true ⟨rfl, fun delivered => ?_⟩ delivering
    cases delivered
  · rename_i other
    refine iff_of_false ?_ other
    rintro ⟨ended, -⟩
    cases ended

/-- A recovery adds only events that are not stored. -/
theorem Session.recovering_unstored (db : Store) (rows : List ProviderDelivery) (now : DateTime) :
    ∀ e ∈ (Session.recovering db rows now).newEvents, db.hasEvent e.leadId e.eventKey = false := by
  have fold : ∀ t : Session, t.db = db → (∀ e ∈ t.newEvents, db.hasEvent e.leadId e.eventKey = false) →
      ∀ e ∈ (rows.foldl (Session.recoverDelivery now) t).newEvents, db.hasEvent e.leadId e.eventKey = false := by
    induction rows with
    | nil => exact fun t _ unstored => unstored
    | cons d rows ih =>
      intro t of unstored
      refine ih (t.recoverDelivery now d) ?_ ?_
      · rw [t.recoverDelivery_eq, Session.refreshLeadState_db]
        exact of
      · rw [t.recoverDelivery_eq]
        obtain ⟨-, eq⟩ | ⟨lead, -, eq⟩ := (t.lose now d).refreshLeadState_cases d.leadId now
        · rw [eq]
          exact unstored
        · simp only at eq
          rw [eq]
          cases (routingStatus (((t.lose now d).db.deliveriesOf d.leadId).map (t.lose now d).held)).event d.leadId with
          | none => exact unstored
          | some event =>
            simp only [Option.elim, Session.addLeadEvent]
            split
            · exact unstored
            · rename_i missing
              intro e member
              obtain member | member := List.mem_append.mp member
              · exact unstored e member
              · rw [List.mem_singleton] at member
                rw [member, ← of]
                exact (Bool.not_eq_true _).mp missing
  refine fold (Session.opened db) rfl ?_
  intro e member
  cases member

/-- The rows that a recovery begun between commits takes. -/
theorem State.Idle.recovers (idle : s.Idle) (distinct : (s.store.deliveries.map ProviderDelivery.id).Nodup)
    (staleAfterSeconds : ℚ) (now : DateTime) :
    ∃ rows, recoverStaleDeliveries s.store s.locked staleAfterSeconds now = Session.recovering s.store rows now ∧
      (rows.map ProviderDelivery.id).Nodup ∧
      ∀ d, d ∈ rows ↔ d ∈ s.store.deliveries ∧ d.stale staleAfterSeconds now = true := by
  obtain ⟨rows, eq, perm⟩ := recoverStaleDeliveries_eq s.store s.locked staleAfterSeconds now
  refine ⟨rows, eq, ?_, fun d => ?_⟩
  · rw [(perm.map ProviderDelivery.id).nodup_iff]
    exact distinct.sublist (List.filter_sublist.map _)
  · rw [perm.mem_iff, List.mem_filter]
    simp [idle.unlocked d.id]

section Held
variable {store : Store} {rows : List ProviderDelivery}

theorem Session.recovering_held (distinct : (store.deliveries.map ProviderDelivery.id).Nodup)
    (unique : (rows.map ProviderDelivery.id).Nodup) (stored : ∀ d ∈ rows, d ∈ store.deliveries) {d : ProviderDelivery}
    (there : d ∈ store.deliveries) : (Session.recovering store rows now).held d =
      if d ∈ rows then d.recovered now else d := by
  have ids : ((Session.recovering store rows now).deliveries.map ProviderDelivery.id).Nodup := by
    have := Session.recovering_rows store rows now
    rw [Session.rows] at this
    rw [this, List.nodup_reverse]
    exact unique
  rw [Session.held]
  by_cases taken : d ∈ rows
  · have member : d.recovered now ∈ (Session.recovering store rows now).deliveries := by
      rw [Session.recovering_deliveries, List.mem_reverse]
      exact List.mem_map_of_mem taken
    have found := Table.get_of_mem ids member
    rw [ProviderDelivery.recovered_id] at found
    rw [found, if_pos taken, Option.getD_some]
  · rw [if_neg taken]
    have missing : Table.get ProviderDelivery.id (Session.recovering store rows now).deliveries d.id = none := by
      rw [Table.get, List.find?_eq_none]
      intro new member same
      rw [Session.recovering_deliveries, List.mem_reverse] at member
      obtain ⟨e, within, rfl⟩ := List.mem_map.mp member
      rw [decide_eq_true_eq, ProviderDelivery.recovered_id] at same
      exact taken (Table.get_inj distinct (stored e within) there same ▸ within)
    rw [missing, Option.getD_none]

/-- The stranded leads are those whose deliveries are all over, and none
delivered, once the taken rows are recovered. -/
theorem Store.strands_iff (taken : ∀ d, d ∈ rows ↔ d ∈ store.deliveries ∧ d.stale staleAfterSeconds now = true)
    {leadId : String} {held : ProviderDelivery → ProviderDelivery}
    (holds : ∀ d ∈ store.deliveriesOf leadId, held d = if d ∈ rows then d.recovered now else d) :
    store.Strands leadId staleAfterSeconds now ↔ (∃ d ∈ store.deliveriesOf leadId, d ∈ rows) ∧
      routingStatus ((store.deliveriesOf leadId).map held) = .deliveryFailed := by
  rw [routingStatus_failed]
  constructor
  · rintro ⟨⟨d, inside, lost⟩, all⟩
    constructor
    · simp only [ProviderDelivery.lost, Bool.and_eq_true] at lost
      exact ⟨d, inside, (taken d).mpr ⟨(List.mem_filter.mp inside).1, lost.1⟩⟩
    · intro row member
      obtain ⟨e, inside, rfl⟩ := List.mem_map.mp member
      rw [holds e inside]
      split
      · rename_i within
        obtain lost | ⟨ended, -⟩ := all e inside
        · simp only [ProviderDelivery.lost, Bool.and_eq_true, decide_eq_true_eq] at lost
          exact (e.recovered_ended now).mpr lost.2
        · have stale := ((taken e).mp within).2
          simp only [ProviderDelivery.stale, Bool.and_eq_true] at stale
          rw [DeliveryStatus.nonterminal_of_active stale.1] at ended
          cases ended
      · rename_i without
        obtain lost | ended := all e inside
        · simp only [ProviderDelivery.lost, Bool.and_eq_true] at lost
          exact absurd ((taken e).mpr ⟨(List.mem_filter.mp inside).1, lost.1⟩) without
        · exact ended
  · rintro ⟨⟨d, inside, within⟩, ended⟩
    have lost : ∀ d ∈ store.deliveriesOf leadId, d ∈ rows → d.lost staleAfterSeconds now = true := by
      intro d inside within
      have is := ended (held d) (List.mem_map_of_mem inside)
      rw [holds d inside, if_pos within] at is
      rw [ProviderDelivery.lost, ((taken d).mp within).2, (d.recovered_ended now).mp is]
      rfl
    refine ⟨⟨d, inside, lost d inside within⟩, fun e inside => ?_⟩
    by_cases within : e ∈ rows
    · exact Or.inl (lost e inside within)
    · have is := ended (held e) (List.mem_map_of_mem inside)
      rw [holds e inside, if_neg within] at is
      exact Or.inr is

end Held

theorem State.recover_perform (s : State) (staleAfterSeconds : ℚ) (now : DateTime) :
    (s.perform (.recover staleAfterSeconds now)).store =
        ((recoverStaleDeliveries s.store s.locked staleAfterSeconds now).commit s.store).getD s.store ∧
      (s.perform (.recover staleAfterSeconds now)).alerts = s.alerts := by
  simp only [State.perform, Transaction.ops, List.foldl_cons, List.foldl_nil, State.apply,
    List.getElem?_concat_length, State.commitRecovery, and_self]

/-- Nothing keeps a recovery from its commit on the rows it read. -/
theorem Session.recovering_commits (db : Store) (rows : List ProviderDelivery) (now : DateTime) :
    ∃ store, (Session.recovering db rows now).commit db = some store := by
  have free : (Session.recovering db rows now).collides db = false := by
    rw [Session.collides, Session.recovering_newAttempt, Option.any_none, Bool.false_or, List.any_eq_false]
    intro e member
    rw [Session.recovering_unstored db rows now e member]
    exact Bool.false_ne_true
  rw [Session.commit, if_neg (by rw [free]; exact Bool.false_ne_true)]
  exact ⟨_, rfl⟩

/-- The leads that a recovery fails. -/
theorem State.Aligned.recover_fails (aligned : s.Aligned) (idle : s.Idle) {leadId : String} :
    s.Fails (s.perform (.recover staleAfterSeconds now)) leadId ↔
      (∃ lead, s.store.lead? leadId = some lead) ∧ s.store.Strands leadId staleAfterSeconds now := by
  have ids := aligned.safe.fenced.sound.unique.ids
  obtain ⟨rows, session, unique, taken⟩ := idle.recovers ids staleAfterSeconds now
  have stored : ∀ d ∈ rows, d ∈ s.store.deliveries := fun d member => ((taken d).mp member).1
  let t := Session.recovering s.store rows now
  let m := s.apply (.recover staleAfterSeconds now)
  have read : t.db = m.store := Session.recovering_db _ _ _
  have commits : m.committing (.commitRecovery s.recoveries.length) = some t := by
    simp only [m, State.apply, State.committing, List.getElem?_concat_length, session, Option.join_some, t]
  have reading : m.Aligned := aligned.recover staleAfterSeconds now
  obtain ⟨store, committed⟩ : ∃ store, t.commit m.store = some store := Session.recovering_commits _ rows now
  have after : (s.perform (.recover staleAfterSeconds now)).store = store := by
    have same : t.commit s.store = some store := committed
    rw [(s.recover_perform staleAfterSeconds now).1, session, same, Option.getD_some]
  have holds := reading.safe.fenced.session_holds commits (by rw [read]; exact ids)
  have routed : ∀ new, Table.get Lead.id t.leads leadId = some new →
      new.status = routingStatus ((s.store.deliveriesOf leadId).map t.held) := by
    intro new held
    have status := (holds.refreshed.leads leadId new held not_false).1
    rwa [read] at status
  rw [Store.strands_iff taken fun d inside =>
    Session.recovering_held ids unique stored (List.mem_filter.mp inside).1]
  constructor
  · rintro ⟨before, lead, found, found', unfailed, failed⟩
    refine ⟨⟨before, found⟩, ?_⟩
    rw [after] at found'
    cases got : Table.get Lead.id t.leads leadId with
    | none =>
      have same : store.lead? leadId = s.store.lead? leadId := reading.commit_other commits committed got
      rw [found', found] at same
      cases same
      exact absurd failed unfailed
    | some new =>
      obtain ⟨-, lead', -, there, -, status⟩ := reading.commit_lead commits read committed got
      rw [found'] at there
      cases there
      refine ⟨?_, (routed new got).symm.trans (status.symm.trans failed)⟩
      obtain ⟨row, member, of⟩ := holds.leads new (Table.get_mem got)
      rw [Session.recovering_deliveries, List.mem_reverse] at member
      obtain ⟨d, within, rfl⟩ := List.mem_map.mp member
      have id : d.leadId = leadId := by
        rw [← d.recovered_leadId now, of]
        exact Table.get_key got
      exact ⟨d, List.mem_filter.mpr ⟨stored d within, decide_eq_true id⟩, within⟩
  · rintro ⟨⟨lead, known⟩, ⟨d, inside, within⟩, failed⟩
    have id : d.leadId = leadId := of_decide_eq_true (List.mem_filter.mp inside).2
    have ended := (routingStatus_failed.mp failed _ (List.mem_map_of_mem inside)).1
    rw [Session.recovering_held ids unique stored (stored d within), if_pos within] at ended
    have written : d.recovered now ∈ t.deliveries := by
      rw [Session.recovering_deliveries, List.mem_reverse]
      exact List.mem_map_of_mem within
    have known' : t.db.lead? (d.recovered now).leadId ≠ none := by
      have is : m.store.lead? leadId = some lead := known
      rw [d.recovered_leadId, id, read, is]
      exact Option.some_ne_none _
    obtain ⟨new, got⟩ := holds.refreshed.rows _ written ended not_false known'
    rw [d.recovered_leadId, id] at got
    obtain ⟨before, lead', found, found', routing, status⟩ := reading.commit_lead commits read committed got
    refine ⟨before, lead', found, by rw [after]; exact found', ?_, ?_⟩
    · rw [routing]
      decide
    · rw [status, routed new got, failed]

end Recovery

/-! ## Runs -/

/-- A recovery leaves no lead stranded. -/
def State.Spares (s : State) : Transaction → Prop
  | .recover staleAfterSeconds now => ∀ lead ∈ s.store.leads, ¬ s.store.Strands lead.id staleAfterSeconds now
  | _ => True

instance (s : State) : (transaction : Transaction) → Decidable (s.Spares transaction)
  | .recover staleAfterSeconds now =>
    inferInstanceAs (Decidable (∀ lead ∈ s.store.leads, ¬ s.store.Strands lead.id staleAfterSeconds now))
  | .claim .. | .heartbeat .. | .begin .. | .finish .. | .crash _ | .deleteLead .. | .assign _ =>
    inferInstanceAs (Decidable True)

section Runs
variable {s : State}

theorem State.apply_alerts (s : State) (op : Op) (reads : ∀ e, op ≠ .commit e) :
    (s.apply op).alerts = s.alerts := by
  cases op with
  | claim id workerId leaseToken leaseSeconds now =>
    simp only [State.apply, State.claim]
    repeat' split
    all_goals rfl
  | heartbeat e leaseSeconds now =>
    simp only [State.apply, State.heartbeat]
    repeat' split
    all_goals rfl
  | begin e adapters now =>
    simp only [State.apply, State.begin]
    repeat' split
    all_goals rfl
  | finish e outcome base maximum now =>
    simp only [State.apply, State.finish]
    repeat' split
    all_goals rfl
  | commit e => exact absurd rfl (reads e)
  | crash e => rfl
  | recover staleAfterSeconds now => rfl
  | commitRecovery r =>
    simp only [State.apply]
    split <;> rfl
  | crashRecovery r => rfl
  | deleteLead leadId role now =>
    simp only [State.apply, State.deleteLead]
    split <;> rfl
  | assign assignments => rfl

/-- Only the commit of a worker's transaction fails a lead. -/
theorem State.Aligned.not_fails (aligned : s.Aligned) {op : Op} (none : s.committing op = none) (leadId : String) :
    ¬ s.Fails (s.apply op) leadId := by
  cases s.apply_store op with
  | nothing same => exact State.not_fails_of_leads (by rw [same]) leadId
  | assignments assignments written => exact State.not_fails_of_leads (by rw [written]) leadId
  | claim d workerId leaseToken leaseSeconds now there due written =>
    refine State.not_fails_of_leads ?_ leadId
    rw [written]
    rfl
  | heartbeat lease leaseSeconds now written =>
    refine State.not_fails_of_leads ?_ leadId
    rw [written]
    rfl
  | commit t commits written =>
    rw [none] at commits
    cases commits
  | erase ids now written =>
    have moved := Store.erase_moved aligned.safe.fenced.sound.leads written
    rintro ⟨before, after, found, found', unfailed, failed⟩
    rw [Store.lead?, moved.leads, Table.get_map moved.ids] at found'
    rw [Store.lead?] at found
    rw [found, Option.map_some] at found'
    cases found'
    split at failed
    · cases failed
    · exact unfailed failed

theorem State.Aligned.op_alerted (aligned : s.Aligned) (op : Op) (none : s.committing op = none)
    (reads : ∀ e, op ≠ .commit e) : s.Alerted (s.apply op) :=
  .quiet (s.apply_alerts op reads) (aligned.not_fails none)

/-- Every transaction keeps the leads aligned. -/
theorem State.Aligned.perform (aligned : s.Aligned) (idle : s.Idle) {transaction : Transaction}
    (fresh : s.Unused transaction.token) : (s.perform transaction).Aligned := by
  cases transaction with
  | claim id workerId leaseToken leaseSeconds now =>
    have allowed : s.Allows (.claim id workerId leaseToken leaseSeconds now) := ⟨fresh, trivial⟩
    exact aligned.step allowed rfl
  | heartbeat e leaseSeconds now =>
    have allowed : s.Allows (.heartbeat e leaseSeconds now) := ⟨s.unnamed, trivial⟩
    exact aligned.step allowed rfl
  | begin e adapters now =>
    have allowed : (s.apply (.begin e adapters now)).Allows (.commit e) := ⟨State.unnamed _, trivial⟩
    exact (aligned.begin e adapters now).apply allowed (idle.current_op _ _)
  | finish e outcome base maximum now =>
    have allowed : (s.apply (.finish e outcome base maximum now)).Allows (.commit e) := ⟨State.unnamed _, trivial⟩
    exact (aligned.finish e outcome base maximum now).apply allowed (idle.current_op _ _)
  | crash e =>
    have allowed : s.Allows (.crash e) := ⟨s.unnamed, trivial⟩
    exact aligned.step allowed rfl
  | recover staleAfterSeconds now =>
    have allowed : (s.apply (.recover staleAfterSeconds now)).Allows (.commitRecovery s.recoveries.length) :=
      ⟨State.unnamed _, fun _ _ id _ => idle.not_open id⟩
    exact (aligned.recover staleAfterSeconds now).apply allowed (idle.current_op _ _)
  | deleteLead leadId role now =>
    have allowed : s.Allows (.deleteLead leadId role now) := ⟨s.unnamed, fun d _ => idle.not_open d.id⟩
    exact aligned.step allowed rfl
  | assign assignments =>
    have allowed : s.Allows (.assign assignments) := ⟨s.unnamed, trivial⟩
    exact aligned.step allowed rfl

/-- A transaction alerts for the leads it fails, unless it is a recovery that
strands one. -/
theorem State.Aligned.alerted_iff (aligned : s.Aligned) (idle : s.Idle) (transaction : Transaction) :
    s.Alerted (s.perform transaction) ↔ s.Spares transaction := by
  cases transaction with
  | claim id workerId leaseToken leaseSeconds now =>
    exact iff_of_true (aligned.op_alerted (.claim id workerId leaseToken leaseSeconds now) rfl fun e => Op.noConfusion) trivial
  | heartbeat e leaseSeconds now =>
    exact iff_of_true (aligned.op_alerted (.heartbeat e leaseSeconds now) rfl fun e => Op.noConfusion) trivial
  | begin e adapters now =>
    obtain ⟨warned, alerts⟩ := idle.begin_warned e adapters now
    have committed := (aligned.begin e adapters now).block_alerted warned e (fun t => idle.current _)
      (idle.current_op _ _)
    exact iff_of_true (committed.of_read (idle.begin e adapters now).2.2 alerts) trivial
  | finish e outcome base maximum now =>
    obtain ⟨warned, alerts⟩ := idle.finish_warned e outcome base maximum now
    have committed := (aligned.finish e outcome base maximum now).block_alerted warned e (fun t => idle.current _)
      (idle.current_op _ _)
    exact iff_of_true (committed.of_read (idle.finish e outcome base maximum now).2.2 alerts) trivial
  | crash e => exact iff_of_true (aligned.op_alerted (.crash e) rfl fun e => Op.noConfusion) trivial
  | recover staleAfterSeconds now =>
    have alerts := (s.recover_perform staleAfterSeconds now).2
    constructor
    · intro alerted lead member strands
      have known : s.store.lead? lead.id = some lead :=
        Table.get_of_mem aligned.safe.fenced.sound.leads member
      have one := alerted.once lead.id ((aligned.recover_fails idle).mpr ⟨⟨lead, known⟩, strands⟩)
      rw [State.sends_of (alerts.trans (List.append_nil _).symm)] at one
      cases one
    · intro spares
      refine .quiet alerts fun leadId failed => ?_
      obtain ⟨⟨lead, known⟩, strands⟩ := (aligned.recover_fails idle).mp failed
      have id : lead.id = leadId := Store.lead?_id known
      exact spares lead (Table.get_mem known) (id ▸ strands)
  | deleteLead leadId role now =>
    exact iff_of_true (aligned.op_alerted (.deleteLead leadId role now) rfl fun e => Op.noConfusion) trivial
  | assign assignments =>
    exact iff_of_true (aligned.op_alerted (.assign assignments) rfl fun e => Op.noConfusion) trivial

theorem State.Submitted.idle (submitted : s.Submitted) : s.Idle := by
  constructor
  · rw [submitted.runs]
    intro run member
    cases member
  · rw [submitted.recoveries]
    intro t member
    cases member

/-- A run of transactions alerts for every lead that one of them fails just if
no recovery strands a lead. -/
theorem State.Aligned.run_alerted (aligned : s.Aligned) (idle : s.Idle) {transactions : List Transaction}
    (fresh : Runs.Allowed (fun (s : State) transaction => s.Unused transaction.token) State.perform s transactions) :
    Runs.Allowed (fun (s : State) transaction => s.Alerted (s.perform transaction)) State.perform s transactions ↔
      Runs.Allowed State.Spares State.perform s transactions := by
  induction transactions generalizing s with
  | nil => exact Iff.rfl
  | cons transaction transactions ih =>
    obtain ⟨unused, fresh⟩ := fresh
    exact and_congr (aligned.alerted_iff idle transaction)
      (ih (aligned.perform idle unused) (idle.perform transaction) fresh)

end Runs

/-- Every transaction of a run alerts for the leads it fails, once, and for no
lead that is delivered or on its way, just if no recovery strands a lead. -/
theorem failures_alerted_iff {start : State} (submitted : start.Submitted) {transactions : List Transaction}
    (fresh : Runs.Allowed (fun (s : State) transaction => s.Unused transaction.token) State.perform start
      transactions) :
    Runs.Allowed (fun (s : State) transaction => s.Alerted (s.perform transaction)) State.perform start transactions ↔
      Runs.Allowed State.Spares State.perform start transactions :=
  submitted.aligned.run_alerted submitted.idle fresh

/-! ## A worker that is lost during the call -/

namespace Sample

/-- The lead's only delivery, up to the call of the adapter. -/
def calling : List Transaction := [.claim "delivery-1" "worker-1" "token-1" 30 0, .begin 0 adapters 1]

/-- The adapter rejects the delivery. -/
def rejected : List Transaction :=
  calling ++ [.finish 0 (.returned ⟨"", false, false⟩) 30 3600 2]

theorem submitted_by_email : (start [byEmail]).Submitted := by
  constructor
  · exact queued
  · intro lead member _
    simp only [start, store, List.mem_singleton] at member
    rw [member]
    rfl
  · simp [start, store]
  · intro e member
    cases member

end Sample

theorem rejection_alerted : Runs.Allowed (fun (s : State) transaction => s.Alerted (s.perform transaction))
    State.perform (Sample.start [Sample.byEmail]) Sample.rejected := by
  refine (failures_alerted_iff Sample.submitted_by_email ?_).mpr ?_
  · decide +kernel
  · decide +kernel

/-- The lease expires during the call. The recovery fails the lead and nobody is
told. -/
theorem lost_lead_unalerted :
    (Sample.start [Sample.byEmail]).Submitted ∧
      Runs.Allowed (fun (s : State) transaction => s.Unused transaction.token) State.perform
        (Sample.start [Sample.byEmail]) (Sample.calling ++ [.recover 120 31]) ∧
      let s := Sample.calling.foldl State.perform (Sample.start [Sample.byEmail])
      s.Fails (s.perform (.recover 120 31)) "lead-1" ∧ s.sends (s.perform (.recover 120 31)) = [] := by
  refine ⟨Sample.submitted_by_email, ?_, ?_, ?_⟩
  · decide +kernel
  · refine ⟨Sample.lead, { Sample.lead with status := .deliveryFailed }, ?_, ?_, ?_, rfl⟩
    · decide +kernel
    · decide +kernel
    · decide
  · decide +kernel

end RankRent.Leads
