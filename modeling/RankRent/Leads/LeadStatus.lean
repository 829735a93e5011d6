import RankRent.Leads.Snapshots

/-!
# The status of a lead follows its deliveries

A transaction that ends a delivery reads the other deliveries of the lead
without a lock. The status it gives the lead is right at its commit just when a
delivery it saw on its way has not been the last to end in between.
-/

namespace RankRent.Leads

/-! ## What the status is made of -/

theorem routingStatus_of_nonterminal {rows : List ProviderDelivery} {d : ProviderDelivery} (member : d ∈ rows)
    (nonterminal : d.status.nonterminal = true) : routingStatus rows = .routing := by
  rw [routingStatus, if_pos]
  rw [List.any_eq_true]
  exact ⟨d, member, nonterminal⟩

/-- The deliveries are on their way, and delivered, alike. -/
def SameStage (d d' : ProviderDelivery) : Prop :=
  d'.status.nonterminal = d.status.nonterminal ∧ (d'.status = .delivered ↔ d.status = .delivered)

theorem SameStage.of_status {d d' : ProviderDelivery} (same : d'.status = d.status) : SameStage d d' :=
  ⟨by rw [same], by rw [same]⟩

theorem SameStage.of_nonterminal {d d' : ProviderDelivery} (before : d.status.nonterminal = true)
    (after : d'.status.nonterminal = true) : SameStage d d' := by
  refine ⟨by rw [before, after], ?_⟩
  constructor <;> intro delivered
  · rw [delivered] at after
    cases after
  · rw [delivered] at before
    cases before

theorem routingStatus_congr {α : Type} {f g : α → ProviderDelivery} {rows : List α}
    (same : ∀ row ∈ rows, SameStage (f row) (g row)) : routingStatus (rows.map f) = routingStatus (rows.map g) := by
  have nonterminal : (rows.map f).any (fun d => d.status.nonterminal) =
      (rows.map g).any fun d => d.status.nonterminal := by
    rw [Bool.eq_iff_iff, List.any_eq_true, List.any_eq_true]
    simp only [List.mem_map, exists_exists_and_eq_and]
    refine exists_congr fun row => and_congr_right fun member => ?_
    rw [(same row member).1]
  have delivered : (rows.map f).any (fun d => d.status = .delivered) =
      (rows.map g).any fun d => d.status = .delivered := by
    rw [Bool.eq_iff_iff, List.any_eq_true, List.any_eq_true]
    simp only [List.mem_map, exists_exists_and_eq_and, decide_eq_true_eq]
    exact exists_congr fun row => and_congr_right fun member => (same row member).2.symm
  simp only [routingStatus, nonterminal, delivered]

/-- What is said of an unfinished lead and of a finished one. -/
theorem routingStatus_terminal {rows : List ProviderDelivery}
    (terminal : ∀ d ∈ rows, d.status.nonterminal = false) :
    routingStatus rows = if rows.any (fun d => d.status = .delivered) then .delivered else .deliveryFailed := by
  rw [routingStatus, if_neg]
  rw [List.any_eq_true]
  rintro ⟨d, member, nonterminal⟩
  rw [terminal d member] at nonterminal
  cases nonterminal

/-- An event is under the key of one status at most. -/
theorem LeadStatus.event_typed {leadId : String} {status status' : LeadStatus} {event event' : String × String}
    (first : status.event leadId = some event) (second : status'.event leadId = some event')
    (same : event.2 = event'.2) : event.1 = event'.1 := by
  have apart : "delivery:" ++ leadId ≠ "delivery-failed:" ++ leadId := by
    intro equal
    have := congrArg (fun s : String => s.toList[8]?) equal
    simp at this
  cases status <;> cases first <;> cases status' <;> cases second
  · rfl
  · exact absurd same apart
  · exact absurd same.symm apart
  · rfl

theorem LeadEvent.erased_unkeyed (e : LeadEvent) {status : LeadStatus} {event : String × String}
    (is : status.event e.leadId = some event) : e.erased.eventKey ≠ event.2 := by
  intro equal
  have fourth := congrArg (fun s : String => s.toList[3]?) equal
  cases status <;> cases is <;> simp [LeadEvent.erased, tombstone] at fourth

/-! ## The invariant -/

/-- Every lead whose deliveries a worker may touch has their status, and the
event of it. -/
structure Store.Settled (s : Store) : Prop where
  status : ∀ lead ∈ s.leads, lead.status ≠ .deleted → s.deliveriesOf lead.id ≠ [] →
    lead.status = routingStatus (s.deliveriesOf lead.id)
  announced : ∀ lead ∈ s.leads, lead.status ≠ .deleted → s.deliveriesOf lead.id ≠ [] →
    ∀ event, lead.status.event lead.id = some event →
      ∃ e ∈ s.events, e.leadId = lead.id ∧ (e.eventType, e.eventKey) = event
  typed : ∀ e ∈ s.events, ∀ status event, LeadStatus.event e.leadId status = some event →
    e.eventKey = event.2 → e.eventType = event.1
  eventIds : (s.events.map LeadEvent.id).Nodup

section Settled
variable {s s' : Store} {f : ProviderDelivery → ProviderDelivery} {g : Lead → Lead}

/-- What a step has to show: a lead keeps its status while its deliveries keep
their stage, or it gets theirs and the event. -/
theorem Store.Settled.moved (settled : s.Settled) (moved : s.Moved s' f g) (keeps : s.Keeps s')
    (typed : ∀ e ∈ s'.events, ∀ status event, LeadStatus.event e.leadId status = some event →
      e.eventKey = event.2 → e.eventType = event.1)
    (eventIds : (s'.events.map LeadEvent.id).Nodup)
    (leads : ∀ lead ∈ s.leads, lead.status ≠ .deleted → (g lead).status ≠ .deleted →
      ((g lead).status = lead.status ∧ ∀ d ∈ s.deliveriesOf lead.id, SameStage d (f d)) ∨
      ((g lead).status = routingStatus ((s.deliveriesOf lead.id).map f) ∧
        ∀ event, (g lead).status.event lead.id = some event →
          ∃ e ∈ s'.events, e.leadId = lead.id ∧ (e.eventType, e.eventKey) = event)) : s'.Settled := by
  have rows := deliveriesOf_map moved.deliveries fun d member => (moved.turns d member).keeps.leadId
  have both : ∀ lead' ∈ s'.leads, lead'.status ≠ .deleted → s'.deliveriesOf lead'.id ≠ [] →
      lead'.status = routingStatus (s'.deliveriesOf lead'.id) ∧
        ∀ event, lead'.status.event lead'.id = some event →
          ∃ e ∈ s'.events, e.leadId = lead'.id ∧ (e.eventType, e.eventKey) = event := by
    intro lead' there alive some
    have there' := there
    rw [moved.leads] at there
    obtain ⟨lead, member, rfl⟩ := List.mem_map.mp there
    have before : lead.status ≠ .deleted := fun deleted => alive (moved.deleted lead member deleted)
    rw [rows, moved.ids] at some ⊢
    obtain ⟨same, stages⟩ | ⟨status, event⟩ := leads lead member before alive
    · have nonempty : s.deliveriesOf lead.id ≠ [] := by simpa using some
      rw [same]
      constructor
      · rw [settled.status lead member before nonempty]
        have := routingStatus_congr (f := id) stages
        rwa [List.map_id] at this
      · intro event is
        obtain ⟨e, stored, of, eq⟩ := settled.announced lead member before nonempty event is
        obtain kept | gone := keeps e stored
        · exact ⟨e, kept, of, eq⟩
        · exact absurd (gone (g lead) there' (by rw [moved.ids]; exact of.symm)) alive
    · exact ⟨status, event⟩
  exact ⟨fun lead there alive some => (both lead there alive some).1,
    fun lead there alive some => (both lead there alive some).2, typed, eventIds⟩

/-- A step that changes no lead and no event, and no stage of a delivery. -/
theorem Store.Settled.unmoved (settled : s.Settled) (moved : s.Moved s' f id) (events : s'.events = s.events)
    (stages : ∀ d ∈ s.deliveries, SameStage d (f d)) : s'.Settled := by
  refine settled.moved moved ?_ ?_ ?_ ?_
  · intro e member
    rw [events]
    exact Or.inl member
  · rw [events]
    exact settled.typed
  · rw [events]
    exact settled.eventIds
  · intro lead _ _ _
    exact Or.inl ⟨rfl, fun d member => stages d (List.mem_filter.mp member).1⟩

/-- A deletion. -/
theorem Store.Settled.erase (settled : s.Settled) {ids : List String} {now : DateTime}
    (leads : (s.leads.map Lead.id).Nodup) (erased : s.anonymize ids now = some s') :
    s.Keeps s' ∧ s'.Settled := by
  have moved := Store.erase_moved leads erased
  have events := Store.anonymize_events settled.eventIds erased
  have keeps : s.Keeps s' := by
    intro e member
    by_cases within : e.leadId ∈ ids
    · refine Or.inr fun lead there same => ?_
      rw [Store.anonymize_leads leads erased] at there
      obtain ⟨before, -, rfl⟩ := List.mem_map.mp there
      rw [moved.ids before] at same
      rw [if_pos (by rw [same]; exact within)]
      rfl
    · refine Or.inl ?_
      rw [events, List.mem_map]
      exact ⟨e, member, if_neg within⟩
  refine ⟨keeps, settled.moved moved keeps ?_ ?_ ?_⟩
  · intro e' there status event is key
    rw [events] at there
    obtain ⟨e, member, rfl⟩ := List.mem_map.mp there
    by_cases within : e.leadId ∈ ids
    · rw [if_pos within] at is key
      exact absurd key (e.erased_unkeyed is)
    · rw [if_neg within] at is key ⊢
      exact settled.typed e member status event is key
  · rw [events, Table.keys_map fun e => by split <;> rfl]
    exact settled.eventIds
  · intro lead _ _ alive
    by_cases within : lead.id ∈ ids
    · rw [if_pos within] at alive
      exact absurd rfl alive
    · rw [if_neg within]
      refine Or.inl ⟨rfl, fun d member => ?_⟩
      have of : d.leadId = lead.id := of_decide_eq_true (List.mem_filter.mp member).2
      rw [if_neg (by rw [of]; exact within)]
      exact .of_status rfl

end Settled

/-! ## Commits -/

/-- The session ends every delivery of the lead that it writes. -/
def Session.Ends (t : Session) (leadId : String) : Prop :=
  (∃ d ∈ t.deliveries, d.leadId = leadId) ∧
    ∀ d ∈ t.deliveries, d.leadId = leadId → d.status.nonterminal = false

/-- Some delivery of the lead that the session does not write is on its way. -/
def Session.Awaits (t : Session) (s : Store) (leadId : String) : Prop :=
  ∃ d ∈ s.deliveriesOf leadId, d.id ∉ t.rows ∧ d.status.nonterminal = true

/-- A transaction that ends its deliveries of a lead, and read another one on its
way, commits while another one still is. -/
def State.Current (s : State) (op : Op) : Prop :=
  ∀ t, s.committing op = some t → ∀ leadId, t.Ends leadId → t.Awaits t.db leadId → t.Awaits s.store leadId

section Decide
variable (t : Session) (s : Store) (leadId : String)

instance : Decidable (t.Ends leadId) :=
  decidable_of_iff ((∃ d ∈ t.deliveries, d.leadId = leadId) ∧
    ∀ d ∈ t.deliveries, d.leadId = leadId → d.status.nonterminal = false) Iff.rfl

instance : Decidable (t.Awaits s leadId) :=
  decidable_of_iff (∃ d ∈ s.deliveriesOf leadId, d.id ∉ t.rows ∧ d.status.nonterminal = true) Iff.rfl

theorem State.current_iff {s : State} {op : Op} : s.Current op ↔ ∀ t ∈ s.committing op,
    ∀ new ∈ t.deliveries, t.Ends new.leadId → t.Awaits t.db new.leadId → t.Awaits s.store new.leadId := by
  constructor
  · exact fun current t commits new _ => current t commits new.leadId
  · intro current t commits leadId ends
    obtain ⟨new, member, rfl⟩ := ends.1
    exact current t commits new member ends

instance (s : State) (op : Op) : Decidable (s.Current op) := decidable_of_iff' _ State.current_iff

end Decide

section Commits
variable {t : Session} {s s' : Store}

/-- The deliveries of a refreshed lead, as the session held them and as its
commit leaves them. -/
theorem Session.Holds.routing (holds : t.Holds s) (later : t.db.Later s)
    (distinct : (s.deliveries.map ProviderDelivery.id).Nodup) {leadId : String}
    (refreshed : ∃ new ∈ t.deliveries, new.leadId = leadId)
    (current : t.Ends leadId → t.Awaits t.db leadId → t.Awaits s leadId) :
    routingStatus ((t.db.deliveriesOf leadId).map t.held) =
      routingStatus ((s.deliveriesOf leadId).map t.writeDelivery) := by
  obtain ⟨f, rows, keeps⟩ := later.deliveries
  have of := deliveriesOf_map rows (fun d member => (keeps d member).1.leadId) leadId
  -- a row the session writes
  have own : ∀ d ∈ t.db.deliveriesOf leadId, d.id ∈ t.rows → t.held d ∈ t.deliveries ∧ (t.held d).leadId = leadId ∧
      (t.writeDelivery (f d)).status = (t.held d).status := by
    intro d member within
    obtain ⟨inside, is⟩ := List.mem_filter.mp member
    obtain ⟨new, there, same⟩ := List.mem_map.mp within
    obtain ⟨-, -, -, -, -, -, -, -, held⟩ := holds.rows new there
    have eq : t.held d = new := by rw [Session.held, ← same, held, Option.getD_some]
    have stored : f d ∈ s.deliveries := by
      rw [rows]
      exact List.mem_map_of_mem inside
    obtain ⟨status, -, leadId'⟩ := holds.written distinct there stored ((keeps d inside).1.id.trans same.symm)
    rw [eq]
    refine ⟨there, leadId'.trans ((keeps d inside).1.leadId.trans (of_decide_eq_true is)), status⟩
  have other : ∀ d, d.id ∉ t.rows → t.held d = d := by
    intro d apart
    have missing : Table.get ProviderDelivery.id t.deliveries d.id = none := by
      rw [Table.get, List.find?_eq_none]
      intro new member same
      exact apart (of_decide_eq_true same ▸ List.mem_map_of_mem member)
    rw [Session.held, missing, Option.getD_none]
  by_cases awaits : t.Awaits t.db leadId
  · -- a delivery that is on its way makes both `routing`
    obtain ⟨d, member, apart, nonterminal⟩ := awaits
    rw [routingStatus_of_nonterminal (List.mem_map_of_mem member) (by rw [other d apart]; exact nonterminal)]
    symm
    by_cases ends : t.Ends leadId
    · obtain ⟨e, member', apart', nonterminal'⟩ := current ends ⟨d, member, apart, nonterminal⟩
      refine routingStatus_of_nonterminal (List.mem_map_of_mem member') ?_
      rw [Session.writeDelivery_other apart']
      exact nonterminal'
    · obtain ⟨new, there, lead, nonterminal'⟩ : ∃ new ∈ t.deliveries, new.leadId = leadId ∧
          new.status.nonterminal = true := by
        by_contra none
        refine ends ⟨refreshed, fun new there lead => ?_⟩
        by_contra nonterminal'
        exact none ⟨new, there, lead, by simpa using nonterminal'⟩
      obtain ⟨e, stored, -, id, leadId', -⟩ := holds.rows new there
      have inside : e ∈ s.deliveriesOf leadId :=
        List.mem_filter.mpr ⟨stored, decide_eq_true (leadId'.symm.trans lead)⟩
      refine routingStatus_of_nonterminal (List.mem_map_of_mem inside) ?_
      rw [(holds.written distinct there stored id).1]
      exact nonterminal'
  · -- otherwise every row has the status the session held
    rw [of, List.map_map]
    refine routingStatus_congr fun d member => .of_status ?_
    simp only [Function.comp]
    by_cases within : d.id ∈ t.rows
    · exact (own d member within).2.2
    · obtain ⟨inside, -⟩ := List.mem_filter.mp member
      obtain ⟨same, stays⟩ := keeps d inside
      have ended : d.status.nonterminal = false := by
        by_contra nonterminal
        exact awaits ⟨d, member, within, by simpa using nonterminal⟩
      rw [Session.writeDelivery_other (by rw [same.id]; exact within), other d within]
      exact stays ended

/-- The lead of an active delivery of settled rows is in routing. -/
theorem Store.Settled.routing (settled : s.Settled) (withdrawn : s.Withdrawn) {d : ProviderDelivery}
    (member : d ∈ s.deliveries) (active : d.status.active = true) {lead : Lead} (there : lead ∈ s.leads)
    (of : d.leadId = lead.id) : lead.status = .routing := by
  have nonterminal := DeliveryStatus.nonterminal_of_active active
  have inside : d ∈ s.deliveriesOf lead.id := List.mem_filter.mpr ⟨member, decide_eq_true of⟩
  have alive : lead.status ≠ .deleted := by
    intro deleted
    rw [withdrawn lead there deleted d member of] at nonterminal
    cases nonterminal
  rw [settled.status lead there alive (List.ne_nil_of_mem inside)]
  exact routingStatus_of_nonterminal inside nonterminal

theorem Session.Commits.keeps (commits : t.Commits s s') : s.Keeps s' := by
  intro e member
  rw [commits.events]
  exact Or.inl ((appendEvents_spec t.newEvents s.events).1 e member)

/-- A commit settles the leads it refreshed. -/
theorem Store.Settled.commit (settled : s.Settled) (withdrawn : s.Withdrawn) (sound : s.Sound)
    (settled' : t.db.Settled) (withdrawn' : t.db.Withdrawn) (later : t.db.Later s) (holds : t.Holds s)
    (moved : s.Moved s' t.writeDelivery t.writeLead) (commits : t.Commits s s')
    (current : ∀ leadId, t.Ends leadId → t.Awaits t.db leadId → t.Awaits s leadId) : s'.Settled := by
  obtain ⟨kept, added, only, unique⟩ := appendEvents_spec t.newEvents s.events
  rw [← commits.events] at kept added only unique
  have typed : ∀ e ∈ s'.events, ∀ status event, LeadStatus.event e.leadId status = some event →
      e.eventKey = event.2 → e.eventType = event.1 := by
    intro e member status event is key
    obtain before | ⟨e', new, id, rfl⟩ := only e member
    · exact settled.typed e before status event is key
    · obtain ⟨status', is'⟩ := holds.refreshed.events e' new
      exact LeadStatus.event_typed is' is key
  refine settled.moved moved commits.keeps typed (unique settled.eventIds) ?_
  intro lead member alive alive'
  cases found : Table.get Lead.id t.leads lead.id with
  | some new =>
    have id : new.id = lead.id := Table.get_key found
    have held := Table.get_mem found
    obtain ⟨row, written, of⟩ := holds.leads new held
    obtain ⟨d, there, loaded, same, leadId, active, read, queue, -⟩ := holds.rows row written
    obtain ⟨before, known⟩ := holds.refreshed.known new held
    obtain ⟨status, announces⟩ := holds.refreshed.leads lead.id new found not_false
    have routing : lead.status = .routing :=
      settled.routing withdrawn there active member (leadId.symm.trans (of.trans id))
    have routing' : before.status = .routing := by
      refine settled'.routing withdrawn' (Store.delivery?_mem read) (by rw [← queue.status]; exact active)
        (Table.get_mem known) ?_
      rw [← queue.leadId, ← leadId, of, ← Store.lead?_id known]
    have eq : (t.writeLead lead).status = new.status := by
      rw [id] at known
      simp only [Session.writeLead, found, known, Lead.flush, routing, routing', written_self]
    refine Or.inr ⟨?_, ?_⟩
    · rw [eq, status]
      exact holds.routing later sound.unique.ids ⟨row, written, of.trans id⟩ (current lead.id)
    · rw [eq]
      intro event is
      obtain stored | ⟨e, new', of', pair⟩ := announces event is
      · obtain ⟨e, inside, holds'⟩ := List.any_eq_true.mp stored
        simp only [Bool.and_eq_true, decide_eq_true_eq] at holds'
        obtain ⟨of', key⟩ := holds'
        have stored : e ∈ s.events := by
          obtain stays | gone := later.events e inside
          · exact stays
          · exact absurd (gone lead member of'.symm) alive
        have type := settled.typed e stored new.status event (by rw [of']; exact is) key
        exact ⟨e, kept e stored, of', by rw [type, key]⟩
      · obtain ⟨n, there⟩ := added e new'
        exact ⟨_, there, of', pair⟩
  | none =>
    have same : t.writeLead lead = lead := by simp only [Session.writeLead, found]
    refine Or.inl ⟨by rw [same], fun d member' => ?_⟩
    obtain ⟨there, of⟩ := List.mem_filter.mp member'
    by_cases within : d.id ∈ t.rows
    · obtain ⟨new, written, id⟩ := List.mem_map.mp within
      obtain ⟨status, active, leadId⟩ := holds.written sound.unique.ids written there id.symm
      refine .of_nonterminal (DeliveryStatus.nonterminal_of_active active) ?_
      rw [status]
      by_contra ended
      have known : t.db.lead? new.leadId ≠ none := by
        have listed : lead.id ∈ t.db.leads.map Lead.id := by
          rw [← later.leads]
          exact List.mem_map_of_mem member
        obtain ⟨before, inside, id⟩ := List.mem_map.mp listed
        obtain ⟨found', is⟩ := Table.get_isSome Lead.id inside
        rw [leadId, of_decide_eq_true of, ← id, Store.lead?, is]
        exact Option.some_ne_none _
      obtain ⟨lead', refreshed⟩ := holds.refreshed.rows new written (by simpa using ended) not_false known
      rw [leadId, of_decide_eq_true of, found] at refreshed
      cases refreshed
    · rw [Session.writeDelivery_other within]
      exact .of_status rfl

end Commits

/-! ## Runs -/

/-- What is known of the rows an open transaction read. -/
structure Store.Read (db s : Store) : Prop where
  settled : db.Settled
  withdrawn : db.Withdrawn
  ids : (db.deliveries.map ProviderDelivery.id).Nodup
  later : db.Later s

structure State.Aligned (s : State) : Prop where
  safe : s.Safe
  settled : s.store.Settled
  read : ∀ t, s.Opened t → t.db.Read s.store

section Runs
variable {s : State}

/-- Every step of a fenced run settles the leads, if its commit is current. -/
theorem State.Aligned.settles (aligned : s.Aligned) {op : Op} (current : s.Current op) :
    s.store.Keeps (s.apply op).store ∧ (s.apply op).store.Settled := by
  have keeps (store : Store) (events : store.events = s.store.events) : s.store.Keeps store := by
    intro e member
    rw [events]
    exact Or.inl member
  have fenced := aligned.safe.fenced
  cases s.apply_store op with
  | nothing same =>
    rw [same]
    exact ⟨keeps s.store rfl, aligned.settled⟩
  | assignments assignments written =>
    rw [written]
    exact ⟨keeps _ rfl, aligned.settled.status, aligned.settled.announced, aligned.settled.typed,
      aligned.settled.eventIds⟩
  | claim d workerId leaseToken leaseSeconds now there due written =>
    have claimable : d.status.claimable = true := by
      simp only [ProviderDelivery.due, Bool.and_eq_true] at due
      exact due.1
    have only : ∀ e ∈ s.store.deliveries, e.id = d.id → e = d := fun e member same =>
      fenced.sound.unique.same_id member there same
    have turned : s.store.Turned (· = d.id) []
        (s.store.updateDelivery d.id fun d => d.claimed workerId leaseToken leaseSeconds now) _ :=
      Store.Turned.claim fun e member same => by
        rw [only e member same]
        exact due
    rw [written]
    refine ⟨keeps _ rfl, aligned.settled.unmoved (turned.moved rfl) rfl fun e member => ?_⟩
    by_cases same : e.id = d.id
    · rw [if_pos same, only e member same]
      exact .of_nonterminal (DeliveryStatus.nonterminal_of_claimable claimable) rfl
    · rw [if_neg same]
      exact .of_status rfl
  | heartbeat lease leaseSeconds now written =>
    have turned : s.store.Turned (fun _ => False) [] (s.store.updateDelivery lease.deliveryId fun d =>
        if d.owns lease then d.beaten leaseSeconds now else d) _ :=
      Store.Turned.heartbeat _ (by simp)
    rw [written]
    refine ⟨keeps _ rfl, aligned.settled.unmoved (turned.moved rfl) rfl fun e member => ?_⟩
    have same := (turned.untouched e member not_false).1
    exact .of_status same.status
  | commit t commits written =>
    have read := aligned.read t (State.committing_opened commits)
    have moved := fenced.commit_moved aligned.safe.withdrawn commits written
    have commits' := Session.commits written
    exact ⟨commits'.keeps, aligned.settled.commit aligned.safe.withdrawn fenced.sound read.settled read.withdrawn
      read.later (fenced.session_holds commits read.ids) moved commits' (current t commits)⟩
  | erase ids now written => exact aligned.settled.erase fenced.sound.leads written

theorem State.Aligned.apply (aligned : s.Aligned) {op : Op} (allowed : s.Allows op) (current : s.Current op) :
    (s.apply op).Aligned := by
  obtain ⟨keeps, settled⟩ := aligned.settles current
  have fenced := aligned.safe.fenced
  obtain ⟨f, g, moved⟩ := fenced.moved aligned.safe.withdrawn op
  have later := moved.later fenced.sound.leads keeps
  refine ⟨aligned.safe.apply allowed, settled, fun t opened => ?_⟩
  obtain before | ⟨read, same⟩ := State.opened_apply op opened
  · have read := aligned.read t before
    exact ⟨read.settled, read.withdrawn, read.ids, read.later.trans later⟩
  · rw [read.db, same]
    exact ⟨aligned.settled, aligned.safe.withdrawn, fenced.sound.unique.ids, .refl _ fenced.sound.leads⟩

/-- Leads as `submit` leaves them, the ones with deliveries in routing. -/
structure State.Submitted (s : State) : Prop extends State.Queued s where
  routing : ∀ lead ∈ s.store.leads, s.store.deliveriesOf lead.id ≠ [] → lead.status = .routing
  eventIds : (s.store.events.map LeadEvent.id).Nodup
  unannounced : ∀ e ∈ s.store.events, ∀ status event, LeadStatus.event e.leadId status = some event →
    e.eventKey ≠ event.2

theorem State.Submitted.aligned (submitted : s.Submitted) : s.Aligned := by
  have queued := submitted.toQueued
  have withdrawn : s.store.Withdrawn := by
    intro lead there deleted d member of
    have inside : d ∈ s.store.deliveriesOf lead.id := List.mem_filter.mpr ⟨member, decide_eq_true of⟩
    rw [submitted.routing lead there (List.ne_nil_of_mem inside)] at deleted
    cases deleted
  have routing : ∀ lead ∈ s.store.leads, s.store.deliveriesOf lead.id ≠ [] →
      lead.status = routingStatus (s.store.deliveriesOf lead.id) := by
    intro lead there some
    rw [submitted.routing lead there some]
    obtain ⟨d, inside⟩ := List.exists_mem_of_ne_nil _ some
    obtain ⟨status, -⟩ := queued.pending d (List.mem_filter.mp inside).1
    exact (routingStatus_of_nonterminal inside (by rw [status]; rfl)).symm
  refine ⟨⟨queued.fenced, withdrawn⟩, ⟨?_, ?_, ?_, submitted.eventIds⟩, ?_⟩
  · intro lead there _ some
    exact routing lead there some
  · intro lead there _ some event is
    rw [submitted.routing lead there some] at is
    cases is
  · intro e member status event is key
    exact absurd key (submitted.unannounced e member status event is)
  · rintro t (⟨run, member, -⟩ | member)
    · rw [queued.runs] at member
      cases member
    · rw [queued.recoveries] at member
      cases member

end Runs

/-- The lead is delivered just if a delivery of it is, and has the event of its
status. -/
structure Store.Follows (s : Store) (lead : Lead) : Prop where
  delivered : (∃ d ∈ s.deliveriesOf lead.id, d.status = .delivered) → lead.status = .delivered ∧
    ∃ e ∈ s.events, e.leadId = lead.id ∧ e.eventType = "provider_delivery"
  failed : (¬ ∃ d ∈ s.deliveriesOf lead.id, d.status = .delivered) → lead.status = .deliveryFailed ∧
    ∃ e ∈ s.events, e.leadId = lead.id ∧ e.eventType = "delivery_failed"

theorem Store.Settled.follows {s : Store} (settled : s.Settled) {lead : Lead} (there : lead ∈ s.leads)
    (alive : lead.status ≠ .deleted) (some : s.deliveriesOf lead.id ≠ [])
    (terminal : ∀ d ∈ s.deliveriesOf lead.id, d.status.nonterminal = false) : s.Follows lead := by
  have status := settled.status lead there alive some
  have announced := settled.announced lead there alive some
  rw [routingStatus_terminal terminal] at status
  constructor
  · intro delivered
    have is : lead.status = .delivered := by
      rw [status, if_pos]
      simpa using delivered
    rw [is] at announced ⊢
    obtain ⟨e, member, of, pair⟩ := announced _ rfl
    exact ⟨rfl, e, member, of, (Prod.mk.inj pair).1⟩
  · intro none
    have is : lead.status = .deliveryFailed := by
      rw [status, if_neg]
      simpa using none
    rw [is] at announced ⊢
    obtain ⟨e, member, of, pair⟩ := announced _ rfl
    exact ⟨rfl, e, member, of, (Prod.mk.inj pair).1⟩

/-- While no transaction commits the end of a delivery after another one it
waited for was the last to end, every lead follows its deliveries. -/
theorem lead_follows_deliveries {start s : State} (submitted : start.Submitted)
    (run : Runs (fun s op => s.Allows op ∧ s.Current op) start s) :
    ∀ lead ∈ s.store.leads, lead.status ≠ .deleted → s.store.deliveriesOf lead.id ≠ [] →
      (∀ d ∈ s.store.deliveriesOf lead.id, d.status.nonterminal = false) → s.store.Follows lead := by
  have aligned : s.Aligned := by
    refine run.invariant (I := State.Aligned) ?_ submitted.aligned
    rintro s op t aligned ⟨allowed, current⟩ rfl
    exact aligned.apply allowed current
  intro lead there alive some terminal
  exact aligned.settled.follows there alive some terminal

/-! ## Two deliveries that finish together -/

namespace Sample

/-- Both deliveries of a lead, up to the calls of the adapters. -/
def bothDelivering : List Op := [
  .claim "delivery-1" "worker-1" "token-1" 30 0,
  .claim "delivery-2" "worker-2" "token-2" 30 0,
  .begin 0 adapters 1,
  .commit 0,
  .begin 1 adapters 1,
  .commit 1]

/-- Both last blocks read before either commits. -/
def finishedTogether : List Op :=
  bothDelivering ++ [.finish 0 accepted 30 3600 2, .finish 1 accepted 30 3600 2, .commit 0, .commit 1]

def finishedInTurn : List Op :=
  bothDelivering ++ [.finish 0 accepted 30 3600 2, .commit 0, .finish 1 accepted 30 3600 2, .commit 1]

def afterBoth (ops : List Op) : State := ops.foldl State.apply (start [byEmail, byPhone])

theorem submitted : (start [byEmail, byPhone]).Submitted := by
  constructor
  · constructor <;> simp [start, store, byEmail, byPhone, delivery, DeliveryChannel.value]
  · intro lead member _
    simp only [start, store, List.mem_singleton] at member
    rw [member]
    rfl
  · simp [start, store]
  · intro e member
    cases member

end Sample

/-- Two deliveries of a lead are delivered, no transaction is open, and the lead
is in routing without an event. -/
theorem lead_unlike_deliveries :
    Runs State.Allows (Sample.start [Sample.byEmail, Sample.byPhone]) (Sample.afterBoth Sample.finishedTogether) ∧
      (∀ t, ¬ (Sample.afterBoth Sample.finishedTogether).Opened t) ∧
      (Sample.afterBoth Sample.finishedTogether).store.deliveries.map (·.status) = [.delivered, .delivered] ∧
      (Sample.afterBoth Sample.finishedTogether).store.leads.map (·.status) = [.routing] ∧
      (Sample.afterBoth Sample.finishedTogether).store.events.map (·.eventType) = [] := by
  have fresh : Runs.Allowed (fun (s : State) op => s.Unused op.token) State.apply
      (Sample.start [Sample.byEmail, Sample.byPhone]) Sample.finishedTogether := by decide +kernel
  have allowed : Runs.Allowed State.Allows State.apply
      (Sample.start [Sample.byEmail, Sample.byPhone]) Sample.finishedTogether := by
    obtain ⟨h1, h2, h3, h4, h5, h6, h7, h8, h9, h10, -⟩ := fresh
    exact ⟨⟨h1, trivial⟩, ⟨h2, trivial⟩, ⟨h3, trivial⟩, ⟨h4, trivial⟩, ⟨h5, trivial⟩, ⟨h6, trivial⟩, ⟨h7, trivial⟩,
      ⟨h8, trivial⟩, ⟨h9, trivial⟩, ⟨h10, trivial⟩, trivial⟩
  refine ⟨allowed.reaches, ?_, ?_, ?_, ?_⟩
  · have closed : (Sample.afterBoth Sample.finishedTogether).runs.map (fun run => run.phase.session?.isSome) =
        [false, false] := by decide +kernel
    have none : (Sample.afterBoth Sample.finishedTogether).recoveries.length = 0 := by decide +kernel
    rintro t (⟨run, member, opened⟩ | member)
    · have is := List.mem_map_of_mem (f := fun run : Execution => run.phase.session?.isSome) member
      rw [closed, opened] at is
      simp at is
    · rw [List.length_eq_zero_iff] at none
      rw [none] at member
      cases member
  · decide +kernel
  · decide +kernel
  · decide +kernel

theorem deliveries_in_turn_followed :
    (Sample.afterBoth Sample.finishedInTurn).store.Follows { Sample.lead with status := .delivered } := by
  have current : Runs.Allowed (fun (s : State) op => s.Unused op.token ∧ s.Current op) State.apply
      (Sample.start [Sample.byEmail, Sample.byPhone]) Sample.finishedInTurn := by decide +kernel
  have allowed : Runs.Allowed (fun s op => s.Allows op ∧ s.Current op) State.apply
      (Sample.start [Sample.byEmail, Sample.byPhone]) Sample.finishedInTurn := by
    obtain ⟨h1, h2, h3, h4, h5, h6, h7, h8, h9, h10, -⟩ := current
    exact ⟨⟨⟨h1.1, trivial⟩, h1.2⟩, ⟨⟨h2.1, trivial⟩, h2.2⟩, ⟨⟨h3.1, trivial⟩, h3.2⟩, ⟨⟨h4.1, trivial⟩, h4.2⟩,
      ⟨⟨h5.1, trivial⟩, h5.2⟩, ⟨⟨h6.1, trivial⟩, h6.2⟩, ⟨⟨h7.1, trivial⟩, h7.2⟩, ⟨⟨h8.1, trivial⟩, h8.2⟩,
      ⟨⟨h9.1, trivial⟩, h9.2⟩, ⟨⟨h10.1, trivial⟩, h10.2⟩, trivial⟩
  refine lead_follows_deliveries Sample.submitted allowed.reaches { Sample.lead with status := .delivered } ?_ ?_ ?_ ?_
  · decide +kernel
  · decide +kernel
  · decide +kernel
  · decide +kernel

end RankRent.Leads
