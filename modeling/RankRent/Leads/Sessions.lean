import RankRent.Leads.System
import RankRent.Leads.Turns

/-!
# What the sessions of the worker hold

The session of each transaction of the worker, written out: the delivery it
changed, the attempt, the lead it refreshed.
-/

namespace RankRent.Leads

theorem Store.lead?_id {s : Store} {id : String} {lead : Lead} (found : s.lead? id = some lead) :
    lead.id = id := Table.get_key found

theorem Store.delivery?_id {s : Store} {id : String} {d : ProviderDelivery}
    (found : s.delivery? id = some d) : d.id = id := Table.get_key found

theorem Store.delivery?_mem {s : Store} {id : String} {d : ProviderDelivery}
    (found : s.delivery? id = some d) : d ∈ s.deliveries := Table.get_mem found

theorem Store.attempt?_spec {s : Store} {key : String} {number : Nat} {a : RoutingAttempt}
    (found : s.attempt? key number = some a) :
    a ∈ s.attempts ∧ a.deliveryKey = key ∧ a.attemptNumber = number := by
  have is := List.find?_some found
  simp only [decide_eq_true_eq, Prod.mk.injEq] at is
  exact ⟨Table.get_mem found, is.1, is.2⟩

/-! ## Refreshing a lead -/

theorem Session.lead?_id {t : Session} {id : String} {lead : Lead} (found : t.lead? id = some lead) :
    lead.id = id := by
  rw [Session.lead?] at found
  cases held : Table.get Lead.id t.leads id with
  | none =>
    rw [held] at found
    exact Table.get_key found
  | some lead' =>
    rw [held] at found
    cases found
    exact Table.get_key held

theorem routingStatus_ne_deleted (deliveries : List ProviderDelivery) :
    routingStatus deliveries ≠ .deleted := by
  unfold routingStatus
  split
  · decide
  · split <;> decide

@[simp] theorem Session.addLeadEvent_db (t : Session) (leadId eventType eventKey : String)
    (now : DateTime) : (t.addLeadEvent leadId eventType eventKey now).db = t.db := by
  unfold Session.addLeadEvent
  split <;> rfl

@[simp] theorem Session.addLeadEvent_deliveries (t : Session) (leadId eventType eventKey : String)
    (now : DateTime) : (t.addLeadEvent leadId eventType eventKey now).deliveries = t.deliveries := by
  unfold Session.addLeadEvent
  split <;> rfl

@[simp] theorem Session.addLeadEvent_attempts (t : Session) (leadId eventType eventKey : String)
    (now : DateTime) : (t.addLeadEvent leadId eventType eventKey now).attempts = t.attempts := by
  unfold Session.addLeadEvent
  split <;> rfl

@[simp] theorem Session.addLeadEvent_leads (t : Session) (leadId eventType eventKey : String)
    (now : DateTime) : (t.addLeadEvent leadId eventType eventKey now).leads = t.leads := by
  unfold Session.addLeadEvent
  split <;> rfl

@[simp] theorem Session.addLeadEvent_newAttempt (t : Session) (leadId eventType eventKey : String)
    (now : DateTime) : (t.addLeadEvent leadId eventType eventKey now).newAttempt = t.newAttempt := by
  unfold Session.addLeadEvent
  split <;> rfl

/-- A refresh finds no lead, or it writes the status the deliveries give it and
adds the event of that status. -/
theorem Session.refreshLeadState_cases (t : Session) (leadId : String) (now : DateTime) :
    t.lead? leadId = none ∧ t.refreshLeadState leadId now = (t, false) ∨
      ∃ lead, t.lead? leadId = some lead ∧
        let status := routingStatus ((t.db.deliveriesOf leadId).map t.held)
        let t' := t.putLead { lead with status := status }
        (t.refreshLeadState leadId now).1 = ((status.event leadId).elim t' fun event =>
          t'.addLeadEvent leadId event.1 event.2 now) := by
  unfold Session.refreshLeadState
  cases found : t.lead? leadId with
  | none => exact Or.inl ⟨rfl, rfl⟩
  | some lead =>
    refine Or.inr ⟨lead, rfl, ?_⟩
    dsimp only
    cases (routingStatus ((t.db.deliveriesOf leadId).map t.held)).event leadId with
    | none => simp only [Option.elim]
    | some key => simp only [Option.elim]

section Refresh
variable (t : Session) (leadId : String) (now : DateTime)

theorem Session.refreshLeadState_keeps {β : Type} (part : Session → β)
    (lead : ∀ t lead, part (Session.putLead t lead) = part t)
    (event : ∀ t leadId eventType eventKey now,
      part (Session.addLeadEvent t leadId eventType eventKey now) = part t) :
    part (t.refreshLeadState leadId now).1 = part t := by
  obtain ⟨-, eq⟩ | ⟨found, -, eq⟩ := t.refreshLeadState_cases leadId now
  · rw [eq]
  · simp only at eq
    rw [eq]
    cases (routingStatus ((t.db.deliveriesOf leadId).map t.held)).event leadId with
    | none => exact lead _ _
    | some key => exact (event _ _ _ _ _).trans (lead _ _)

@[simp] theorem Session.refreshLeadState_db : (t.refreshLeadState leadId now).1.db = t.db :=
  t.refreshLeadState_keeps leadId now Session.db (fun _ _ => rfl) fun t => t.addLeadEvent_db

@[simp] theorem Session.refreshLeadState_deliveries :
    (t.refreshLeadState leadId now).1.deliveries = t.deliveries :=
  t.refreshLeadState_keeps leadId now Session.deliveries (fun _ _ => rfl) fun t => t.addLeadEvent_deliveries

@[simp] theorem Session.refreshLeadState_attempts :
    (t.refreshLeadState leadId now).1.attempts = t.attempts :=
  t.refreshLeadState_keeps leadId now Session.attempts (fun _ _ => rfl) fun t => t.addLeadEvent_attempts

@[simp] theorem Session.refreshLeadState_newAttempt :
    (t.refreshLeadState leadId now).1.newAttempt = t.newAttempt :=
  t.refreshLeadState_keeps leadId now Session.newAttempt (fun _ _ => rfl) fun t => t.addLeadEvent_newAttempt

theorem Session.refreshLeadState_leads {lead : Lead}
    (member : lead ∈ (t.refreshLeadState leadId now).1.leads) :
    lead ∈ t.leads ∨ lead.id = leadId ∧ lead.status ≠ .deleted := by
  obtain ⟨-, eq⟩ | ⟨found, there, eq⟩ := t.refreshLeadState_cases leadId now
  · rw [eq] at member
    exact Or.inl member
  · simp only at eq
    rw [eq] at member
    have member : lead ∈ (t.putLead { found with
        status := routingStatus ((t.db.deliveriesOf leadId).map t.held) }).leads := by
      cases event : (routingStatus ((t.db.deliveriesOf leadId).map t.held)).event leadId with
      | none =>
        rw [event] at member
        exact member
      | some key =>
        rw [event] at member
        simpa using member
    obtain rfl | member := List.mem_cons.mp member
    · have id : found.id = leadId := t.lead?_id there
      exact Or.inr ⟨id, routingStatus_ne_deleted _⟩
    · exact Or.inl member

end Refresh

/-! ## Sessions that end a delivery -/

/-- A session that changed these attempts and this delivery, and refreshed the
lead. -/
def Session.ending (db : Store) (attempts : List RoutingAttempt) (new : ProviderDelivery)
    (leadId : String) (now : DateTime) : Session :=
  (({ Session.opened db with attempts := attempts }.putDelivery new).refreshLeadState leadId now).1

section Ending
variable (db : Store) (attempts : List RoutingAttempt) (new : ProviderDelivery) (leadId : String)
  (now : DateTime)

@[simp] theorem Session.ending_db : (Session.ending db attempts new leadId now).db = db := by
  simp [Session.ending, Session.putDelivery, Session.opened]

@[simp] theorem Session.ending_deliveries :
    (Session.ending db attempts new leadId now).deliveries = [new] := by
  simp [Session.ending, Session.putDelivery, Session.opened]

@[simp] theorem Session.ending_attempts :
    (Session.ending db attempts new leadId now).attempts = attempts := by
  simp [Session.ending, Session.putDelivery]

@[simp] theorem Session.ending_newAttempt :
    (Session.ending db attempts new leadId now).newAttempt = none := by
  simp [Session.ending, Session.putDelivery, Session.opened]

theorem Session.ending_leads {lead : Lead}
    (member : lead ∈ (Session.ending db attempts new leadId now).leads) :
    lead.id = leadId ∧ lead.status ≠ .deleted := by
  obtain member | holds := Session.refreshLeadState_leads _ _ _ member
  · cases member
  · exact holds

end Ending

theorem Session.failDelivery_fst (t : Session) (d : ProviderDelivery) (errorCode summary : String)
    (now : DateTime) : (t.failDelivery d errorCode summary now).1 =
      ((t.putDelivery (d.failed errorCode summary now)).refreshLeadState d.leadId now).1 := by
  unfold Session.failDelivery
  generalize (t.putDelivery (d.failed errorCode summary now)).refreshLeadState d.leadId now = refreshed
  dsimp only
  split <;> rfl

/-- How the last block ends a delivery and its attempt. -/
structure Settles (d new : ProviderDelivery) (attempt ended : RoutingAttempt) : Prop where
  same : SameDelivery d new
  status : new.status = .retrying ∨ new.status = .failed ∨ new.status = .delivered
  count : new.attemptCount = d.attemptCount
  token : new.leaseToken = none
  id : ended.id = attempt.id
  stopped : ended.status ≠ .running
  retries : new.status = .retrying → ended.status = .retryableFailure ∧ d.attemptCount < d.maxAttempts

theorem retryOrFail_settles (db : Store) (d : ProviderDelivery) (attempt : RoutingAttempt)
    (base maximum : ℚ) (now : DateTime) : ∃ new ended,
      ((Session.opened db).retryOrFail d attempt base maximum now).1 =
        Session.ending db [ended] new d.leadId now ∧ Settles d new attempt ended := by
  unfold Session.retryOrFail
  dsimp only
  split
  · refine ⟨_, _, Session.failDelivery_fst _ _ _ _ _, ?_⟩
    exact ⟨⟨rfl, rfl, rfl, rfl⟩, Or.inr (Or.inl rfl), rfl, rfl, rfl, (fun running => by cases running), fun retries => by cases retries⟩
  · rename_i room
    refine ⟨_, _, rfl, ?_⟩
    exact ⟨⟨rfl, rfl, rfl, rfl⟩, Or.inl rfl, rfl, rfl, rfl, (fun running => by cases running), fun _ => ⟨rfl, Nat.lt_of_not_le room⟩⟩

theorem settle_settles (db : Store) (d : ProviderDelivery) (attempt : RoutingAttempt)
    (outcome : AdapterOutcome) (base maximum : ℚ) (now : DateTime) : ∃ new ended,
      ((Session.opened db).settle d attempt outcome base maximum now).1 =
        Session.ending db [ended] new d.leadId now ∧ Settles d new attempt ended := by
  have fails (status : AttemptStatus) (errorCode summary : String) (stopped : status ≠ .running) :
      ∃ new ended, (((Session.opened db).putAttempt (attempt.ended status errorCode summary now)).failDelivery d
        errorCode summary now).1 = Session.ending db [ended] new d.leadId now ∧
          Settles d new attempt ended := by
    refine ⟨_, _, Session.failDelivery_fst _ _ _ _ _, ?_⟩
    exact ⟨⟨rfl, rfl, rfl, rfl⟩, Or.inr (Or.inl rfl), rfl, rfl, rfl, stopped, fun retries => by cases retries⟩
  cases outcome with
  | retryableError => exact retryOrFail_settles db d attempt base maximum now
  | error => exact fails _ _ _ (by decide)
  | returned result =>
    simp only [Session.settle]
    split
    · refine ⟨_, _, rfl, ?_⟩
      exact ⟨⟨rfl, rfl, rfl, rfl⟩, Or.inr (Or.inr rfl), rfl, rfl, rfl, (fun running => by cases running), fun retries => by cases retries⟩
    · split
      · exact retryOrFail_settles db d attempt base maximum now
      · exact fails _ _ _ (by decide)

/-! ## The two blocks -/

/-- The first block starts the next attempt. -/
def Begun.Starts (begun : Begun) (db : Store) (d : ProviderDelivery) : Prop :=
  ∃ request attempt,
    begun = ⟨{ (Session.opened db).putDelivery { d with
        attemptCount := d.attemptCount + 1
        status := .delivering } with newAttempt := some attempt },
      some (request, d.attemptCount + 1), none⟩ ∧
    request.deliveryKey = d.deliveryKey ∧ request.leadId = d.leadId ∧
    attempt.deliveryKey = d.deliveryKey ∧ attempt.attemptNumber = d.attemptCount + 1 ∧
    attempt.status = .running

/-- The first block fails the delivery before the adapter is called. -/
def Begun.Rejects (begun : Begun) (db : Store) (d : ProviderDelivery) : Prop :=
  ∃ errorCode summary now,
    begun.session = Session.ending db [] (d.failed errorCode summary now) d.leadId now ∧
    begun.request = none

theorem checkDelivery_ok {db : Store} {adapters : DeliveryChannel → Option String}
    {d : ProviderDelivery} {request : DeliveryRequest}
    (checked : checkDelivery db adapters d = .ok request) :
    request.deliveryKey = d.deliveryKey ∧ request.leadId = d.leadId := by
  unfold checkDelivery at checked
  split at checked
  · cases checked
  · rename_i lead found
    repeat' split at checked
    all_goals cases checked
    exact ⟨rfl, Store.lead?_id found⟩

theorem beginDelivery_some {db : Store} {lease : DeliveryLease}
    {adapters : DeliveryChannel → Option String} {now : DateTime} {begun : Begun}
    (begins : beginDelivery db lease adapters now = some begun) :
    ∃ d, db.delivery? lease.deliveryId = some d ∧ d.owns lease = true ∧
      (begun.Starts db d ∨ begun.Rejects db d) := by
  unfold beginDelivery at begins
  split at begins
  · cases begins
  · rename_i d found
    split at begins
    · cases begins
    · rename_i owns
      refine ⟨d, found, by simpa using owns, ?_⟩
      split at begins
      · cases begins
        exact Or.inr ⟨_, _, _, Session.failDelivery_fst _ _ _ _ _, rfl⟩
      · rename_i request checked
        obtain ⟨key, leadId⟩ := checkDelivery_ok checked
        cases begins
        exact Or.inl ⟨request, _, rfl, key, leadId, rfl, rfl, rfl⟩

theorem finishDelivery_some {db : Store} {lease : DeliveryLease} {number : Nat}
    {outcome : AdapterOutcome} {base maximum : ℚ} {now : DateTime} {session : Session}
    {alert : Option Alert}
    (finishes : finishDelivery db lease number outcome base maximum now = some (session, alert)) :
    ∃ d attempt new ended, db.delivery? lease.deliveryId = some d ∧ d.owns lease = true ∧
      db.attempt? d.deliveryKey number = some attempt ∧
      session = Session.ending db [ended] new d.leadId now ∧ Settles d new attempt ended := by
  unfold finishDelivery at finishes
  split at finishes
  · cases finishes
  · rename_i d found
    split at finishes
    · cases finishes
    · rename_i owns
      split at finishes
      · cases finishes
      · rename_i attempt there
        obtain ⟨new, ended, eq, settles⟩ := settle_settles db d attempt outcome base maximum now
        refine ⟨d, attempt, new, ended, found, by simpa using owns, there, ?_, settles⟩
        rw [← eq, Option.some.inj finishes]

/-! ## Recoveries -/

/-- The attempt a recovery ends with the delivery. -/
def ProviderDelivery.lostAttempt (db : Store) (now : DateTime) (d : ProviderDelivery) :
    Option RoutingAttempt :=
  if d.status = .delivering then
    (db.runningAttempt d.deliveryKey).map fun a => a.ended .outcomeUnknown lostDuringCode lostDuringSummary now
  else none

/-- A recovery of these rows. -/
def Session.recovering (db : Store) (rows : List ProviderDelivery) (now : DateTime) : Session :=
  rows.foldl (Session.recoverDelivery now) (Session.opened db)

/-- The session before the refresh of one turn. -/
def Session.lose (now : DateTime) (t : Session) (d : ProviderDelivery) : Session :=
  { t with
    deliveries := d.recovered now :: t.deliveries
    attempts := (d.lostAttempt t.db now).toList ++ t.attempts }

theorem Session.recoverDelivery_eq (now : DateTime) (t : Session) (d : ProviderDelivery) :
    t.recoverDelivery now d = ((t.lose now d).refreshLeadState d.leadId now).1 := by
  unfold Session.recoverDelivery Session.lose ProviderDelivery.lostAttempt
  split
  · rename_i delivering
    have same : (t.putDelivery (d.recovered now)).db = t.db := rfl
    simp only [same]
    cases t.db.runningAttempt d.deliveryKey <;> rfl
  · rfl

section Recovering
variable (db : Store) (now : DateTime)

theorem Session.foldl_recover (rows : List ProviderDelivery) (t : Session) (of : t.db = db) :
    (rows.foldl (Session.recoverDelivery now) t).db = db ∧
      (rows.foldl (Session.recoverDelivery now) t).newAttempt = t.newAttempt ∧
      (rows.foldl (Session.recoverDelivery now) t).deliveries =
        (rows.map (ProviderDelivery.recovered · now)).reverse ++ t.deliveries ∧
      (∀ a, a ∈ (rows.foldl (Session.recoverDelivery now) t).attempts ↔
        a ∈ rows.filterMap (ProviderDelivery.lostAttempt db now) ∨ a ∈ t.attempts) ∧
      (∀ lead ∈ (rows.foldl (Session.recoverDelivery now) t).leads,
        lead ∈ t.leads ∨ lead.status ≠ .deleted ∧ ∃ d ∈ rows, lead.id = d.leadId) := by
  induction rows generalizing t with
  | nil => exact ⟨of, rfl, rfl, by simp, fun lead member => Or.inl member⟩
  | cons d rows ih =>
    have eq := t.recoverDelivery_eq now d
    obtain ⟨db', new, deliveries, attempts, leads⟩ := ih (t.recoverDelivery now d) (by rw [eq, Session.refreshLeadState_db]; exact of)
    rw [List.foldl_cons]
    refine ⟨db', ?_, ?_, ?_, ?_⟩
    · rw [new, eq]
      simp [Session.lose]
    · rw [deliveries, eq]
      simp [Session.lose]
    · intro a
      rw [attempts a, eq, Session.refreshLeadState_attempts]
      simp only [Session.lose, of, List.mem_append, Option.mem_toList, List.filterMap_cons]
      cases d.lostAttempt db now with
      | none => simp
      | some lost =>
        simp only [Option.some.injEq, List.mem_cons, eq_comm (a := lost)]
        tauto
    · intro lead member
      obtain member | ⟨status, d', there, id⟩ := leads lead member
      · rw [eq] at member
        obtain member | ⟨id, status⟩ := Session.refreshLeadState_leads _ _ _ member
        · exact Or.inl member
        · exact Or.inr ⟨status, d, List.mem_cons_self, id⟩
      · exact Or.inr ⟨status, d', List.mem_cons_of_mem _ there, id⟩

variable (rows : List ProviderDelivery)

@[simp] theorem Session.recovering_db : (Session.recovering db rows now).db = db :=
  (Session.foldl_recover db now rows _ rfl).1

@[simp] theorem Session.recovering_newAttempt : (Session.recovering db rows now).newAttempt = none :=
  (Session.foldl_recover db now rows _ rfl).2.1

theorem Session.recovering_deliveries : (Session.recovering db rows now).deliveries =
    (rows.map (ProviderDelivery.recovered · now)).reverse := by
  rw [Session.recovering, (Session.foldl_recover db now rows _ rfl).2.2.1]
  exact List.append_nil _

theorem Session.mem_recovering_attempts {a : RoutingAttempt} :
    a ∈ (Session.recovering db rows now).attempts ↔ ∃ d ∈ rows, d.lostAttempt db now = some a := by
  rw [Session.recovering, (Session.foldl_recover db now rows _ rfl).2.2.2.1, List.mem_filterMap]
  simp [Session.opened]

theorem Session.recovering_leads {lead : Lead} (member : lead ∈ (Session.recovering db rows now).leads) :
    lead.status ≠ .deleted ∧ ∃ d ∈ rows, lead.id = d.leadId := by
  obtain member | holds := (Session.foldl_recover db now rows _ rfl).2.2.2.2 lead member
  · cases member
  · exact holds

end Recovering

/-- The rows of a recovery: the stale ones no other recovery locks. -/
theorem recoverStaleDeliveries_eq (db : Store) (locked : List String) (staleAfterSeconds : ℚ)
    (now : DateTime) : ∃ rows : List ProviderDelivery,
      recoverStaleDeliveries db locked staleAfterSeconds now = Session.recovering db rows now ∧
      rows.Perm (db.deliveries.filter fun d => d.stale staleAfterSeconds now && d.id ∉ locked) :=
  ⟨_, rfl, List.perm_insertionSort _ _⟩

@[simp] theorem ProviderDelivery.recovered_id (d : ProviderDelivery) (now : DateTime) :
    (d.recovered now).id = d.id := by
  unfold ProviderDelivery.recovered
  split <;> rfl

theorem Session.recovering_rows (db : Store) (rows : List ProviderDelivery) (now : DateTime) :
    (Session.recovering db rows now).rows = (rows.map ProviderDelivery.id).reverse := by
  rw [Session.rows, Session.recovering_deliveries, List.map_reverse, List.map_map]
  congr 1
  exact List.map_congr_left fun d _ => d.recovered_id now

end RankRent.Leads
