import RankRent.Leads.Commits

/-!
# What a session makes of the leads it refreshes

A refreshed lead has the status of its deliveries as the session holds them, and
the event of that status is stored or about to be.
-/

namespace RankRent.Leads

/-- The event of a status of the lead is stored, or the session adds it. -/
def Session.Announces (t : Session) (leadId : String) (status : LeadStatus) : Prop :=
  ∀ event, status.event leadId = some event → t.db.hasEvent leadId event.2 = true ∨
    ∃ e ∈ t.newEvents, e.leadId = leadId ∧ (e.eventType, e.eventKey) = event

/-- Every lead whose delivery the session ends is refreshed, but for those whose
turn is still due. -/
structure Session.Refreshed (t : Session) (due : String → Prop) : Prop where
  known : ∀ lead ∈ t.leads, ∃ loaded, t.db.lead? lead.id = some loaded
  leads : ∀ id lead, Table.get Lead.id t.leads id = some lead → ¬ due id →
    lead.status = routingStatus ((t.db.deliveriesOf id).map t.held) ∧ t.Announces id lead.status
  rows : ∀ d ∈ t.deliveries, d.status.nonterminal = false → ¬ due d.leadId →
    t.db.lead? d.leadId ≠ none → ∃ lead, Table.get Lead.id t.leads d.leadId = some lead
  events : ∀ e ∈ t.newEvents, ∃ status, LeadStatus.event e.leadId status = some (e.eventType, e.eventKey)

section Events
variable (t : Session) (leadId eventType eventKey : String) (now : DateTime)

theorem Session.addLeadEvent_newEvents : (t.db.hasEvent leadId eventKey = true ∧
      (t.addLeadEvent leadId eventType eventKey now).newEvents = t.newEvents) ∨
    ∃ e : LeadEvent, e.leadId = leadId ∧ e.eventType = eventType ∧ e.eventKey = eventKey ∧
      (t.addLeadEvent leadId eventType eventKey now).newEvents = t.newEvents ++ [e] := by
  unfold Session.addLeadEvent
  split
  · rename_i stored
    exact Or.inl ⟨stored, rfl⟩
  · exact Or.inr ⟨_, rfl, rfl, rfl, rfl⟩

/-- What a refresh that finds its lead leaves. -/
theorem Session.refreshLeadState_found {lead : Lead} (found : t.lead? leadId = some lead) :
    let status := routingStatus ((t.db.deliveriesOf leadId).map t.held)
    let t' := (t.refreshLeadState leadId now).1
    t'.leads = { lead with status := status } :: t.leads ∧
      (∀ e ∈ t.newEvents, e ∈ t'.newEvents) ∧
      t'.Announces leadId status ∧
      ∀ e ∈ t'.newEvents, e ∈ t.newEvents ∨
        e.leadId = leadId ∧ status.event leadId = some (e.eventType, e.eventKey) := by
  obtain ⟨none, -⟩ | ⟨lead', there, eq⟩ := t.refreshLeadState_cases leadId now
  · rw [none] at found
    cases found
  · rw [found] at there
    cases there
    simp only at eq ⊢
    rw [eq]
    cases event : (routingStatus ((t.db.deliveriesOf leadId).map t.held)).event leadId with
    | none =>
      refine ⟨rfl, fun e member => member, ?_, fun e member => Or.inl member⟩
      intro event' same
      rw [event] at same
      cases same
    | some event' =>
      obtain ⟨eventType, eventKey⟩ := event'
      simp only [Option.elim]
      refine ⟨Session.addLeadEvent_leads _ _ _ _ _, ?_⟩
      obtain ⟨stored, new⟩ | ⟨e, of, type, key, new⟩ :=
        Session.addLeadEvent_newEvents (t.putLead { lead with
          status := routingStatus ((t.db.deliveriesOf leadId).map t.held) }) leadId eventType eventKey now
      · rw [new]
        refine ⟨fun e member => member, ?_, fun e member => Or.inl member⟩
        intro event' same
        rw [event] at same
        cases same
        rw [Session.addLeadEvent_db]
        exact Or.inl stored
      · refine ⟨?_, ?_, ?_⟩
        · intro e' member
          rw [new]
          exact List.mem_append_left _ member
        · intro event' same
          rw [event] at same
          cases same
          rw [new]
          exact Or.inr ⟨e, List.mem_append_right _ (List.mem_singleton_self e), of, by rw [type, key]⟩
        · intro e' member
          rw [new] at member
          obtain member | member := List.mem_append.mp member
          · exact Or.inl member
          · rw [List.mem_singleton] at member
            rw [member, type, key]
            exact Or.inr ⟨of, rfl⟩

end Events

/-- A refresh settles its lead and leaves the others. -/
theorem Session.Refreshed.refresh {t : Session} {leadId : String} (refreshed : t.Refreshed (· = leadId))
    (now : DateTime) : (t.refreshLeadState leadId now).1.Refreshed fun _ => False := by
  cases found : t.lead? leadId with
  | none =>
    have same : t.refreshLeadState leadId now = (t, false) := by
      unfold Session.refreshLeadState
      rw [found]
    rw [Session.lead?, Option.or_eq_none_iff] at found
    rw [same]
    constructor
    · exact refreshed.known
    · intro id lead held _
      refine refreshed.leads id lead held ?_
      rintro rfl
      rw [found.1] at held
      cases held
    · intro d member ended _ stored
      refine refreshed.rows d member ended ?_ stored
      intro is
      rw [is] at stored
      exact stored found.2
    · exact refreshed.events
  | some lead =>
    obtain ⟨leads, more, announces, events⟩ := t.refreshLeadState_found leadId now found
    have id : lead.id = leadId := t.lead?_id found
    have get : ∀ other, Table.get Lead.id (t.refreshLeadState leadId now).1.leads other =
        if leadId = other then some { lead with status := routingStatus ((t.db.deliveriesOf leadId).map t.held) }
        else Table.get Lead.id t.leads other := by
      intro other
      rw [leads]
      by_cases same : leadId = other <;> simp [Table.get, id, same]
    have held : (t.refreshLeadState leadId now).1.held = t.held := by
      funext row
      simp only [Session.held, Session.refreshLeadState_deliveries]
    constructor
    · intro lead' member
      rw [Session.refreshLeadState_db]
      rw [leads] at member
      obtain rfl | member := List.mem_cons.mp member
      · have there := found
        rw [Session.lead?] at there
        cases stored : Table.get Lead.id t.leads leadId with
        | none =>
          rw [stored, Option.none_or] at there
          exact ⟨lead, by rw [← there, ← id]⟩
        | some lead' =>
          rw [stored] at there
          cases there
          exact refreshed.known lead (Table.get_mem stored)
      · exact refreshed.known lead' member
    · intro other lead' there _
      rw [get] at there
      rw [Session.refreshLeadState_db, held]
      by_cases same : leadId = other
      · rw [if_pos same] at there
        cases there
        subst same
        exact ⟨rfl, announces⟩
      · rw [if_neg same] at there
        obtain ⟨status, announced⟩ := refreshed.leads other lead' there (Ne.symm same)
        refine ⟨status, fun event is => ?_⟩
        rw [Session.refreshLeadState_db]
        obtain stored | ⟨e, member, of⟩ := announced event is
        · exact Or.inl stored
        · exact Or.inr ⟨e, more e member, of⟩
    · intro d member ended _ stored
      rw [Session.refreshLeadState_deliveries] at member
      rw [Session.refreshLeadState_db] at stored
      rw [get]
      by_cases same : leadId = d.leadId
      · exact ⟨_, if_pos same⟩
      · rw [if_neg same]
        exact refreshed.rows d member ended (Ne.symm same) stored
    · intro e member
      obtain member | ⟨of, event⟩ := events e member
      · exact refreshed.events e member
      · exact ⟨_, by rw [of]; exact event⟩

/-! ## The sessions of the worker -/

theorem Session.ending_refreshed (db : Store) (attempts : List RoutingAttempt) (new : ProviderDelivery)
    (now : DateTime) : (Session.ending db attempts new new.leadId now).Refreshed fun _ => False := by
  refine Session.Refreshed.refresh ?_ now
  constructor
  · intro lead member
    cases member
  · intro id lead held
    cases held
  · intro d member _ other
    simp only [Session.putDelivery, Session.opened, List.mem_singleton] at member
    rw [member] at other
    exact absurd rfl other
  · intro e member
    cases member

theorem Begun.Starts.refreshed {begun : Begun} {db : Store} {d : ProviderDelivery}
    (starts : begun.Starts db d) : begun.session.Refreshed fun _ => False := by
  obtain ⟨request, attempt, rfl, -⟩ := starts
  constructor
  · intro lead member
    cases member
  · intro id lead held
    cases held
  · intro new member ended
    simp only [Session.putDelivery, Session.opened, List.mem_singleton] at member
    rw [member] at ended
    cases ended
  · intro e member
    cases member

theorem ProviderDelivery.recovered_leadId (d : ProviderDelivery) (now : DateTime) :
    (d.recovered now).leadId = d.leadId := by
  unfold ProviderDelivery.recovered
  split <;> rfl

/-- One turn of a recovery unsettles the lead of its delivery, and refreshes it. -/
theorem Session.Refreshed.recover {t : Session} (refreshed : t.Refreshed fun _ => False)
    (distinct : (t.db.deliveries.map ProviderDelivery.id).Nodup) {d : ProviderDelivery}
    (stored : d ∈ t.db.deliveries) (now : DateTime) : (t.recoverDelivery now d).Refreshed fun _ => False := by
  rw [Session.recoverDelivery_eq]
  refine Session.Refreshed.refresh ?_ now
  constructor
  · exact refreshed.known
  · intro id lead held other
    obtain ⟨status, announced⟩ := refreshed.leads id lead held not_false
    refine ⟨?_, announced⟩
    rw [status]
    refine congrArg routingStatus (List.map_congr_left fun row member => ?_)
    obtain ⟨there, of⟩ := List.mem_filter.mp member
    have apart : d.id ≠ row.id := by
      intro same
      have is : d = row := Table.get_inj distinct stored there same
      rw [is] at other
      exact other (of_decide_eq_true of).symm
    simp [Session.held, Session.lose, Table.get, apart]
  · intro new member ended other known
    obtain rfl | member := List.mem_cons.mp member
    · exact absurd (d.recovered_leadId now) other
    · exact refreshed.rows new member ended not_false known
  · exact refreshed.events

theorem Session.recovering_refreshed {db : Store} {rows : List ProviderDelivery}
    (distinct : (db.deliveries.map ProviderDelivery.id).Nodup) (stored : ∀ d ∈ rows, d ∈ db.deliveries)
    (now : DateTime) : (Session.recovering db rows now).Refreshed fun _ => False := by
  have fold : ∀ (t : Session), t.db = db → t.Refreshed (fun _ => False) →
      (rows.foldl (Session.recoverDelivery now) t).Refreshed fun _ => False := by
    induction rows with
    | nil => exact fun t _ refreshed => refreshed
    | cons d rows ih =>
      intro t of refreshed
      refine ih (fun e member => stored e (List.mem_cons_of_mem _ member)) (t.recoverDelivery now d) ?_ ?_
      · rw [t.recoverDelivery_eq, Session.refreshLeadState_db]
        exact of
      · refine refreshed.recover ?_ ?_ now
        · rw [of]
          exact distinct
        · rw [of]
          exact stored d List.mem_cons_self
  refine fold (Session.opened db) rfl ?_
  constructor
  · intro lead member
    cases member
  · intro id lead held
    cases held
  · intro d member
    cases member
  · intro e member
    cases member

end RankRent.Leads
