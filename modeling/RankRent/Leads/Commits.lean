import RankRent.Leads.Sessions

/-!
# What a commit leaves

A commit of the worker turns the deliveries of its session and leaves the other
rows alone.
-/

namespace RankRent.Leads

/-! ## Flushes -/

theorem SameQueue.symm {d d' : ProviderDelivery} (same : SameQueue d d') : SameQueue d' d where
  id := same.id.symm
  leadId := same.leadId.symm
  deliveryKey := same.deliveryKey.symm
  maxAttempts := same.maxAttempts.symm
  status := same.status.symm
  attemptCount := same.attemptCount.symm
  workerId := same.workerId.symm
  leaseToken := same.leaseToken.symm

/-- Over a row that is still in the queue as it was loaded, a flush leaves the
instance's place in the queue. -/
theorem ProviderDelivery.flush_queue {loaded new stored : ProviderDelivery}
    (same : SameQueue loaded stored) (id : new.id = loaded.id) :
    SameQueue new (ProviderDelivery.flush loaded new stored) := by
  constructor
  · constructor
    · exact same.id.trans id.symm
    · simp only [ProviderDelivery.flush, same.leadId, written_self]
    · simp only [ProviderDelivery.flush, same.deliveryKey, written_self]
    · simp only [ProviderDelivery.flush, same.maxAttempts, written_self]
  · simp only [ProviderDelivery.flush, same.status, written_self]
  · simp only [ProviderDelivery.flush, same.attemptCount, written_self]
  · simp only [ProviderDelivery.flush, same.workerId, written_self]
  · simp only [ProviderDelivery.flush, same.leaseToken, written_self]

theorem ProviderDelivery.flush_self {new stored : ProviderDelivery} (id : new.id = stored.id) :
    ProviderDelivery.flush stored new stored = new := by
  simp [ProviderDelivery.flush, ← id]

/-- What holds between the loaded and the changed instance holds between the
rows. -/
theorem Turn.congr {loaded new d d' : ProviderDelivery} {before after : List RoutingAttempt}
    (turn : Turn loaded new before after) (first : SameQueue loaded d) (last : SameQueue new d') :
    Turn d d' before after := by
  have keeps : ∀ (_ : SameDelivery loaded new), SameDelivery d d' := fun keeps =>
    { id := last.id.trans (keeps.id.trans first.id.symm)
      leadId := last.leadId.trans (keeps.leadId.trans first.leadId.symm)
      deliveryKey := last.deliveryKey.trans (keeps.deliveryKey.trans first.deliveryKey.symm)
      maxAttempts := last.maxAttempts.trans (keeps.maxAttempts.trans first.maxAttempts.symm) }
  have counts : ∀ n, new.attemptCount = loaded.attemptCount + n → d'.attemptCount = d.attemptCount + n := by
    intro n count
    rw [last.attemptCount, count, first.attemptCount]
  cases turn with
  | stays same attempts => exact .stays (first.symm.trans (same.trans last)) attempts
  | claimed same was status count attempts =>
    exact .claimed (keeps same) (by rw [first.status]; exact was) (last.status.trans status)
      (counts 0 count) attempts
  | started same was status count worker token attempt number attempts =>
    exact .started (keeps same) (first.status.trans was) (last.status.trans status) (counts 1 count)
      (last.workerId.trans (worker.trans first.workerId.symm))
      (last.leaseToken.trans (token.trans first.leaseToken.symm)) attempt
      (by rw [number, first.attemptCount]) attempts
  | released same was status count token attempts =>
    exact .released (keeps same) (first.status.trans was) (by rw [last.status]; exact status)
      (counts 0 count) (last.leaseToken.trans token) attempts
  | settled same was waits unclaimed count token write attempts numbers older newest room =>
    refine .settled (keeps same) (first.status.trans was) (by rw [last.status]; exact waits)
      (by rw [last.status]; exact unclaimed) (counts 0 count) (last.leaseToken.trans token) write
      attempts numbers ?_ ?_ ?_
    · rw [first.attemptCount]
      exact older
    · rw [first.attemptCount, last.status]
      exact newest
    · rw [last.status, first.attemptCount, first.maxAttempts]
      exact room
  | cancelled same was status count token attempts =>
    exact .cancelled (keeps same) (by rw [first.status]; exact was) (last.status.trans status)
      (counts 0 count) (last.leaseToken.trans token) attempts

/-! ## Stores -/

/-- One commit: the rows it touches turn, and the others keep their place in the
queue; a locked row it does not touch is left as it is. -/
structure Store.Turned (touched : String → Prop) (locked : List String) (s s' : Store)
    (f : ProviderDelivery → ProviderDelivery) : Prop where
  deliveries : s'.deliveries = s.deliveries.map f
  ids : ∀ d, (f d).id = d.id
  turns : ∀ d ∈ s.deliveries, Turn d (f d) (s.attemptsOf d.deliveryKey) (s'.attemptsOf d.deliveryKey)
  untouched : ∀ d ∈ s.deliveries, ¬ touched d.id →
    SameQueue d (f d) ∧ s'.attemptsOf d.deliveryKey = s.attemptsOf d.deliveryKey
  locked : ∀ d ∈ s.deliveries, ¬ touched d.id → d.id ∈ locked → f d = d

theorem Store.Turned.delivery? {touched : String → Prop} {locked : List String} {s s' : Store}
    {f : ProviderDelivery → ProviderDelivery} (turned : s.Turned touched locked s' f) (id : String) :
    s'.delivery? id = (s.delivery? id).map f := by
  rw [Store.delivery?, turned.deliveries]
  exact Table.get_map turned.ids s.deliveries id

/-- A commit that leaves deliveries and attempts alone. -/
theorem Store.Turned.refl {touched : String → Prop} {locked : List String} {s s' : Store}
    (deliveries : s'.deliveries = s.deliveries) (attempts : s'.attempts = s.attempts) :
    Store.Turned touched locked s s' id where
  deliveries := by rw [deliveries, List.map_id]
  ids d := rfl
  turns d _ := .stays (SameQueue.refl d) (by rw [Store.attemptsOf, attempts]; rfl)
  untouched d _ _ := ⟨SameQueue.refl d, by rw [Store.attemptsOf, attempts]; rfl⟩
  locked d _ _ _ := rfl

/-- The unique constraints of deliveries and attempts. -/
structure Store.Unique (s : Store) : Prop where
  ids : (s.deliveries.map ProviderDelivery.id).Nodup
  keys : (s.deliveries.map ProviderDelivery.deliveryKey).Nodup
  attempts : (s.attempts.map RoutingAttempt.id).Nodup

section Unique
variable {s : Store}

theorem Store.Unique.delivery? (unique : s.Unique) {d : ProviderDelivery} (member : d ∈ s.deliveries) :
    s.delivery? d.id = some d := Table.get_of_mem unique.ids member

theorem Store.Unique.same_id (unique : s.Unique) {d e : ProviderDelivery} (member : d ∈ s.deliveries)
    (there : e ∈ s.deliveries) (same : d.id = e.id) : d = e := Table.get_inj unique.ids member there same

theorem Store.Unique.same_key (unique : s.Unique) {d e : ProviderDelivery} (member : d ∈ s.deliveries)
    (there : e ∈ s.deliveries) (same : d.deliveryKey = e.deliveryKey) : d = e :=
  Table.get_inj unique.keys member there same

theorem Store.Unique.same_attempt (unique : s.Unique) {a b : RoutingAttempt} (member : a ∈ s.attempts)
    (there : b ∈ s.attempts) (same : a.id = b.id) : a = b := Table.get_inj unique.attempts member there same

theorem Store.mem_attemptsOf {key : String} {a : RoutingAttempt} :
    a ∈ s.attemptsOf key ↔ a ∈ s.attempts ∧ a.deliveryKey = key := by
  simp [Store.attemptsOf]

end Unique

theorem nextId_fresh {α : Type} (id : α → Nat) (rows : List α) : ∀ row ∈ rows, id row < nextId id rows := by
  have bound : ∀ (rows : List α) (n : Nat), n ≤ rows.foldl (fun n row => max n (id row)) n ∧
      ∀ row ∈ rows, id row ≤ rows.foldl (fun n row => max n (id row)) n := by
    intro rows
    induction rows with
    | nil => exact fun n => ⟨Nat.le_refl n, fun row member => by cases member⟩
    | cons first rest ih =>
      intro n
      obtain ⟨start, each⟩ := ih (max n (id first))
      rw [List.foldl_cons]
      refine ⟨by omega, fun row member => ?_⟩
      obtain rfl | member := List.mem_cons.mp member
      · omega
      · exact each row member
  intro row member
  have := (bound rows 0).2 row member
  simp only [nextId]
  omega

/-! ## Writing rows -/

section Writes
variable {t : Session} {s s' : Store}

theorem Session.writeDelivery_other {stored : ProviderDelivery} (apart : stored.id ∉ t.rows) :
    t.writeDelivery stored = stored := by
  have missing : Table.get ProviderDelivery.id t.deliveries stored.id = none := by
    rw [Table.get, List.find?_eq_none]
    intro d member same
    simp only [decide_eq_true_eq] at same
    exact apart (same ▸ List.mem_map_of_mem member)
  simp only [Session.writeDelivery, missing]

theorem Session.writeDelivery_of {new loaded stored : ProviderDelivery}
    (held : Table.get ProviderDelivery.id t.deliveries stored.id = some new)
    (found : t.db.delivery? stored.id = some loaded) :
    t.writeDelivery stored = ProviderDelivery.flush loaded new stored := by
  simp only [Session.writeDelivery, held, found]

theorem Session.writeDelivery_id (stored : ProviderDelivery) : (t.writeDelivery stored).id = stored.id := by
  unfold Session.writeDelivery
  split <;> rfl

theorem Session.writeAttempt_other {stored : RoutingAttempt} (apart : ∀ a ∈ t.attempts, a.id ≠ stored.id) :
    t.writeAttempt stored = stored := by
  have missing : Table.get RoutingAttempt.id t.attempts stored.id = none := by
    rw [Table.get, List.find?_eq_none]
    intro a member same
    exact apart a member (by simpa using same)
  simp only [Session.writeAttempt, missing]

theorem Session.writeAttempt_keeps (stored : RoutingAttempt) :
    (t.writeAttempt stored).id = stored.id ∧ (t.writeAttempt stored).deliveryKey = stored.deliveryKey ∧
      (t.writeAttempt stored).attemptNumber = stored.attemptNumber := by
  unfold Session.writeAttempt
  split <;> exact ⟨rfl, rfl, rfl⟩

theorem Session.writeLead_id (stored : Lead) : (t.writeLead stored).id = stored.id := by
  unfold Session.writeLead
  split <;> rfl

/-- What a commit stores. -/
structure Session.Commits (t : Session) (s s' : Store) : Prop where
  free : t.collides s = false
  deliveries : s'.deliveries = s.deliveries.map t.writeDelivery
  attempts : s'.attempts = s.attempts.map t.writeAttempt ++
    t.newAttempt.toList.map fun a => { a with id := nextId RoutingAttempt.id s.attempts }
  leads : s'.leads = s.leads.map t.writeLead
  events : s'.events = t.newEvents.foldl
    (fun events e => events ++ [{ e with id := nextId LeadEvent.id events }]) s.events
  assignments : s'.assignments = s.assignments

theorem Session.commits (committed : t.commit s = some s') : t.Commits s s' := by
  unfold Session.commit at committed
  split at committed
  · cases committed
  · rename_i free
    cases committed
    exact ⟨by simpa using free, rfl, rfl, rfl, rfl, rfl⟩

theorem Session.Commits.attemptsOf (commits : t.Commits s s') (key : String) :
    s'.attemptsOf key = (s.attemptsOf key).map t.writeAttempt ++
      ((t.newAttempt.toList.map fun a => { a with id := nextId RoutingAttempt.id s.attempts }).filter
        fun a => a.deliveryKey = key) := by
  rw [Store.attemptsOf, commits.attempts, List.filter_append, List.filter_map]
  congr 2
  refine List.filter_congr fun a _ => ?_
  simp only [Function.comp, (t.writeAttempt_keeps a).2.1]

theorem Session.Commits.unique (commits : t.Commits s s') (unique : s.Unique)
    (keeps : ∀ d ∈ s.deliveries, (t.writeDelivery d).deliveryKey = d.deliveryKey) : s'.Unique where
  ids := by
    rw [commits.deliveries, Table.keys_map fun d => t.writeDelivery_id d]
    exact unique.ids
  keys := by
    have same : (s.deliveries.map t.writeDelivery).map ProviderDelivery.deliveryKey =
        s.deliveries.map ProviderDelivery.deliveryKey := by
      rw [List.map_map]
      exact List.map_congr_left keeps
    rw [commits.deliveries, same]
    exact unique.keys
  attempts := by
    rw [commits.attempts, List.map_append, Table.keys_map fun a => (t.writeAttempt_keeps a).1]
    cases t.newAttempt with
    | none => simpa using unique.attempts
    | some a =>
      rw [List.nodup_append]
      refine ⟨unique.attempts, by simp, ?_⟩
      intro n member m new
      simp only [Option.toList_some, List.map_cons, List.map_nil, List.mem_singleton] at new
      obtain ⟨b, there, rfl⟩ := List.mem_map.mp member
      have := nextId_fresh RoutingAttempt.id s.attempts b there
      omega

/-- A commit that writes nothing of a key leaves the attempts of that key. -/
theorem Session.Commits.attemptsOf_other (commits : t.Commits s s') {key : String}
    (apart : ∀ a ∈ s.attemptsOf key, t.writeAttempt a = a) (new : ∀ a ∈ t.newAttempt, a.deliveryKey ≠ key) :
    s'.attemptsOf key = s.attemptsOf key := by
  have none : ((t.newAttempt.toList.map fun a => { a with id := nextId RoutingAttempt.id s.attempts }).filter
      fun a => a.deliveryKey = key) = [] := by
    rw [List.filter_eq_nil_iff]
    intro a member
    obtain ⟨b, there, rfl⟩ := List.mem_map.mp member
    simpa using new b (by simpa using there)
  rw [commits.attemptsOf, none, List.append_nil]
  conv_rhs => rw [← List.map_id (s.attemptsOf key)]
  exact List.map_congr_left apart

/-- A commit that adds no attempt keeps the numbers of the attempts. -/
theorem Session.Commits.numbers (commits : t.Commits s s') (none : t.newAttempt = none) (key : String) :
    (s'.attemptsOf key).map RoutingAttempt.attemptNumber =
      (s.attemptsOf key).map RoutingAttempt.attemptNumber := by
  rw [commits.attemptsOf, none]
  simp only [Option.toList_none, List.map_nil, List.filter_nil, List.append_nil, List.map_map]
  exact List.map_congr_left fun a _ => (t.writeAttempt_keeps a).2.2

theorem Session.writeLead_other {stored : Lead} (apart : ∀ lead ∈ t.leads, lead.id ≠ stored.id) :
    t.writeLead stored = stored := by
  have missing : Table.get Lead.id t.leads stored.id = none := by
    rw [Table.get, List.find?_eq_none]
    intro lead member same
    exact apart lead member (by simpa using same)
  simp only [Session.writeLead, missing]

/-- A session that deletes no lead leaves a lead that is not deleted so. -/
theorem Session.writeLead_status {stored : Lead} (alive : ∀ lead ∈ t.leads, lead.status ≠ .deleted)
    (status : stored.status ≠ .deleted) : (t.writeLead stored).status ≠ .deleted := by
  unfold Session.writeLead
  split
  · rename_i new loaded held found
    simp only [Lead.flush, written]
    split
    · exact status
    · exact alive new (Table.get_mem held)
  · exact status

end Writes

/-! ## Commits of one delivery -/

section Single
variable {t : Session} {s s' : Store} {loaded new d : ProviderDelivery}

/-- A session that changed one delivery turns it, given how it turned the
instance. -/
theorem Session.Commits.turned (commits : t.Commits s s') (unique : s.Unique) (locked : List String)
    (member : d ∈ s.deliveries) (only : t.deliveries = [new]) (found : t.db.delivery? d.id = some loaded)
    (same : SameQueue loaded d) (id : new.id = loaded.id)
    (apart : ∀ a ∈ s.attempts, a.deliveryKey ≠ d.deliveryKey → t.writeAttempt a = a)
    (added : ∀ a ∈ t.newAttempt, a.deliveryKey = d.deliveryKey)
    (turn : Turn loaded new (s.attemptsOf d.deliveryKey) (s'.attemptsOf d.deliveryKey)) :
    Store.Turned (· = d.id) locked s s' t.writeDelivery := by
  have held : Table.get ProviderDelivery.id t.deliveries d.id = some new := by
    rw [only]
    simp [Table.get, id, same.id]
  have other : ∀ e ∈ s.deliveries, e.id ≠ d.id →
      t.writeDelivery e = e ∧ s'.attemptsOf e.deliveryKey = s.attemptsOf e.deliveryKey := by
    intro e there differs
    have keys : e.deliveryKey ≠ d.deliveryKey := by
      intro equal
      exact differs (by rw [unique.same_key there member equal])
    constructor
    · refine Session.writeDelivery_other ?_
      rw [Session.rows, only]
      simpa [id, ← same.id] using differs
    · refine commits.attemptsOf_other ?_ ?_
      · intro a of
        obtain ⟨there, key⟩ := Store.mem_attemptsOf.mp of
        exact apart a there (by rw [key]; exact keys)
      · intro a new
        rw [added a new]
        exact Ne.symm keys
  constructor
  · exact commits.deliveries
  · exact fun d => t.writeDelivery_id d
  · intro e there
    by_cases equal : e.id = d.id
    · obtain rfl := unique.same_id there member equal
      rw [Session.writeDelivery_of held found]
      exact turn.congr same (ProviderDelivery.flush_queue same id)
    · obtain ⟨eq, attempts⟩ := other e there equal
      rw [eq]
      exact .stays (SameQueue.refl e) attempts
  · intro e there differs
    obtain ⟨eq, attempts⟩ := other e there differs
    rw [eq]
    exact ⟨SameQueue.refl e, attempts⟩
  · intro e there differs _
    exact (other e there differs).1

theorem Session.written_queue (only : t.deliveries = [new]) (found : t.db.delivery? d.id = some loaded)
    (same : SameQueue loaded d) (id : new.id = loaded.id) : SameQueue new (t.writeDelivery d) := by
  have held : Table.get ProviderDelivery.id t.deliveries d.id = some new := by
    rw [only]
    simp [Table.get, id, same.id]
  rw [Session.writeDelivery_of held found]
  exact ProviderDelivery.flush_queue same id

/-- A delivery no one may claim keeps its lease or loses it. -/
theorem Turn.token {d' : ProviderDelivery} {before after : List RoutingAttempt} (turn : Turn d d' before after)
    (taken : d.status.claimable = false) : d'.leaseToken = d.leaseToken ∨ d'.leaseToken = none := by
  cases turn with
  | stays same => exact Or.inl same.leaseToken
  | claimed keeps was => rw [taken] at was; cases was
  | started keeps was status count worker token => exact Or.inl token
  | released keeps was status count token => exact Or.inr token
  | settled keeps was waits unclaimed count token => exact Or.inr token
  | cancelled keeps was status count token => exact Or.inr token

/-- An attempt is started. -/
theorem Begun.Starts.turned {begun : Begun} {db : Store} (starts : begun.Starts db loaded)
    (unique : s.Unique) (locked : List String) (member : d ∈ s.deliveries)
    (found : db.delivery? d.id = some loaded) (same : SameQueue loaded d) (leased : d.status = .leased)
    (commits : begun.session.Commits s s') :
    Store.Turned (· = d.id) locked s s' begun.session.writeDelivery := by
  obtain ⟨request, attempt, rfl, -, -, key, number, -⟩ := starts
  have key' : attempt.deliveryKey = d.deliveryKey := key.trans same.deliveryKey.symm
  have unwritten : ∀ a : RoutingAttempt, Session.writeAttempt { (Session.opened db).putDelivery { loaded with
      attemptCount := loaded.attemptCount + 1
      status := .delivering } with newAttempt := some attempt } a = a := fun a =>
    Session.writeAttempt_other fun b none => by cases none
  refine commits.turned unique locked member rfl found same rfl (fun a _ _ => unwritten a) ?_ ?_
  · intro a new
    cases new
    exact key'
  · refine .started ⟨rfl, rfl, rfl, rfl⟩ (same.status.symm.trans leased) rfl rfl rfl rfl
      { attempt with id := nextId RoutingAttempt.id s.attempts } number ?_
    rw [commits.attemptsOf, List.map_congr_left fun a _ => unwritten a, List.map_id']
    simp [key']

/-- The number of a started attempt is the next one. -/
theorem Begun.Starts.numbers {begun : Begun} {db : Store} (starts : begun.Starts db loaded)
    (same : SameQueue loaded d) (commits : begun.session.Commits s s') (key : String) :
    (s'.attemptsOf key).map RoutingAttempt.attemptNumber =
      (s.attemptsOf key).map RoutingAttempt.attemptNumber ++
        if d.deliveryKey = key then [d.attemptCount + 1] else [] := by
  obtain ⟨request, attempt, rfl, -, -, key', number, -⟩ := starts
  rw [commits.attemptsOf, List.map_append, List.map_map]
  congr 1
  simp only [Option.toList_some, List.map_cons, List.map_nil, List.filter_cons, List.filter_nil, key',
    same.deliveryKey, same.attemptCount]
  by_cases equal : loaded.deliveryKey = key <;> simp [equal, number]

/-- A delivery is failed before its attempt. -/
theorem Begun.Rejects.turned {begun : Begun} {db : Store} (rejects : begun.Rejects db loaded)
    (unique : s.Unique) (locked : List String) (member : d ∈ s.deliveries)
    (found : db.delivery? d.id = some loaded) (same : SameQueue loaded d) (leased : d.status = .leased)
    (commits : begun.session.Commits s s') :
    Store.Turned (· = d.id) locked s s' begun.session.writeDelivery := by
  obtain ⟨errorCode, summary, now, eq, -⟩ := rejects
  have unwritten : ∀ a : RoutingAttempt, begun.session.writeAttempt a = a := fun a =>
    Session.writeAttempt_other fun b none => by rw [eq, Session.ending_attempts] at none; cases none
  have none : begun.session.newAttempt = none := by rw [eq, Session.ending_newAttempt]
  have only : begun.session.deliveries = [loaded.failed errorCode summary now] := by
    rw [eq, Session.ending_deliveries]
  refine commits.turned unique locked member only (by rw [eq, Session.ending_db]; exact found) same rfl
    (fun a _ _ => unwritten a) ?_ ?_
  · rw [none]
    intro a new
    cases new
  · refine .released ⟨rfl, rfl, rfl, rfl⟩ (same.status.symm.trans leased) (Or.inr rfl) rfl rfl ?_
    refine commits.attemptsOf_other (fun a _ => unwritten a) ?_
    rw [none]
    intro a new
    cases new

/-- A delivery and its newest attempt are ended. -/
theorem Settles.turned {db : Store} {attempt ended : RoutingAttempt} {now : DateTime}
    (settles : Settles loaded new attempt ended)
    (session : t = Session.ending db [ended] new loaded.leadId now)
    (unique : s.Unique) (locked : List String) (kept : Kept d (s.attemptsOf d.deliveryKey))
    (member : d ∈ s.deliveries) (found : db.delivery? d.id = some loaded) (same : SameQueue loaded d)
    (delivering : d.status = .delivering) (read : Table.get RoutingAttempt.id db.attempts attempt.id = some attempt)
    (there : attempt ∈ s.attemptsOf d.deliveryKey) (newest : attempt.attemptNumber = d.attemptCount)
    (commits : t.Commits s s') : Store.Turned (· = d.id) locked s s' t.writeDelivery := by
  obtain ⟨stored, key⟩ := Store.mem_attemptsOf.mp there
  have none : t.newAttempt = none := by rw [session, Session.ending_newAttempt]
  have unwritten : ∀ a ∈ s.attempts, a ≠ attempt → t.writeAttempt a = a := by
    intro a member differs
    refine Session.writeAttempt_other fun b held id => differs ?_
    rw [session, Session.ending_attempts, List.mem_singleton] at held
    refine unique.same_attempt member stored ?_
    rw [← id, held, settles.id]
  have written : t.writeAttempt attempt = RoutingAttempt.flush attempt ended attempt := by
    have held : Table.get RoutingAttempt.id t.attempts attempt.id = some ended := by
      rw [session, Session.ending_attempts]
      simp [Table.get, settles.id]
    have read' : Table.get RoutingAttempt.id t.db.attempts attempt.id = some attempt := by
      rw [session, Session.ending_db]
      exact read
    simp only [Session.writeAttempt, held, read']
  have status : (t.writeAttempt attempt).status = ended.status := by
    rw [written]
    simp [RoutingAttempt.flush]
  refine commits.turned unique locked member (by rw [session, Session.ending_deliveries])
    (by rw [session, Session.ending_db]; exact found) same settles.same.id ?_ ?_ ?_
  · intro a member differs
    refine unwritten a member ?_
    rintro rfl
    exact differs key
  · rw [none]
    intro a new
    cases new
  · refine .settled settles.same (same.status.symm.trans delivering) ?_ ?_ settles.count settles.token
      t.writeAttempt ?_ (fun a => (t.writeAttempt_keeps a).2.2) ?_ ?_ fun retries => (settles.retries retries).2
    · obtain status | status | status := settles.status <;> rw [status] <;> rfl
    · obtain status | status | status := settles.status <;> rw [status] <;> decide
    · rw [commits.attemptsOf, none]
      simp
    · intro a of small
      refine unwritten a (Store.mem_attemptsOf.mp of).1 ?_
      rintro rfl
      rw [newest, same.attemptCount] at small
      exact Nat.lt_irrefl _ small
    · intro a of last
      have is : a = attempt :=
        Table.get_inj kept.distinct of there (by rw [last, newest, same.attemptCount])
      rw [is, status]
      exact ⟨settles.stopped, fun retries => (settles.retries retries).1⟩

end Single

/-! ## Commits of a recovery -/

theorem Store.runningAttempt_spec (s : Store) (key : String) :
    (∀ a, s.runningAttempt key = some a → a ∈ s.attemptsOf key ∧ a.status = .running) ∧
      (s.runningAttempt key = none → ∀ a ∈ s.attemptsOf key, a.status ≠ .running) := by
  let pick : Option RoutingAttempt → RoutingAttempt → Option RoutingAttempt := fun best a =>
    best.elim (some a) fun b => if b.attemptNumber < a.attemptNumber then some a else some b
  have picks : ∀ (rows : List RoutingAttempt) (best : Option RoutingAttempt),
      (∀ a, rows.foldl pick best = some a → a ∈ rows ∨ best = some a) ∧
        (rows.foldl pick best = none → rows = [] ∧ best = none) := by
    intro rows
    induction rows with
    | nil => exact fun best => ⟨fun a holds => Or.inr holds, fun none => ⟨rfl, none⟩⟩
    | cons first rest ih =>
      intro best
      obtain ⟨found, missing⟩ := ih (pick best first)
      have chosen : pick best first = some first ∨ pick best first = best ∧ best ≠ none := by
        cases best with
        | none => exact Or.inl rfl
        | some b =>
          simp only [pick, Option.elim_some]
          split
          · exact Or.inl rfl
          · exact Or.inr ⟨rfl, fun none => by cases none⟩
      constructor
      · intro a holds
        obtain member | held := found a holds
        · exact Or.inl (List.mem_cons_of_mem _ member)
        · obtain eq | ⟨eq, -⟩ := chosen
          · rw [eq] at held
            cases held
            exact Or.inl List.mem_cons_self
          · exact Or.inr (eq ▸ held)
      · intro none
        obtain ⟨-, none⟩ := missing none
        obtain eq | ⟨eq, some⟩ := chosen
        · rw [eq] at none
          cases none
        · exact absurd (eq ▸ none) some
  have picked : s.runningAttempt key =
      (s.attempts.filter fun a => a.deliveryKey = key && a.status = .running).foldl pick none := by
    unfold Store.runningAttempt
    congr 1
    funext best a
    cases best <;> rfl
  have rows : ∀ a, a ∈ s.attempts.filter (fun a => a.deliveryKey = key && a.status = .running) ↔
      a ∈ s.attemptsOf key ∧ a.status = .running := by
    intro a
    simp [Store.attemptsOf, and_assoc]
  rw [picked]
  constructor
  · intro a holds
    obtain member | none := (picks _ none).1 a holds
    · exact (rows a).mp member
    · cases none
  · intro none a member running
    have empty := ((picks _ _).2 none).1
    have := (rows a).mpr ⟨member, running⟩
    rw [empty] at this
    cases this

/-- A recovery that is open on these rows, which are still as it read them. -/
structure Session.Recovers (t : Session) (s : Store) (rows : List ProviderDelivery) (now : DateTime) :
    Prop where
  session : t = Session.recovering t.db rows now
  distinct : (rows.map ProviderDelivery.id).Nodup
  active : ∀ d ∈ rows, d.status.active = true
  stored : ∀ d ∈ rows, d ∈ s.deliveries
  read : ∀ d ∈ rows, t.db.delivery? d.id = some d
  attempts : ∀ d ∈ rows, t.db.attemptsOf d.deliveryKey = s.attemptsOf d.deliveryKey
  ids : (t.db.attempts.map RoutingAttempt.id).Nodup

section Recovery
variable {t : Session} {s s' : Store} {rows : List ProviderDelivery} {now : DateTime}

theorem Session.Recovers.mem_rows (recovers : t.Recovers s rows now) {id : String} :
    id ∈ t.rows ↔ ∃ d ∈ rows, d.id = id := by
  rw [recovers.session, Session.recovering_rows, List.mem_reverse, List.mem_map]

theorem Session.Recovers.newAttempt (recovers : t.Recovers s rows now) : t.newAttempt = none := by
  rw [recovers.session, Session.recovering_newAttempt]

/-- The attempts a recovery holds are running ones of its deliveries. -/
theorem Session.Recovers.lost (recovers : t.Recovers s rows now) {ended : RoutingAttempt}
    (member : ended ∈ t.attempts) : ∃ d ∈ rows, d.status = .delivering ∧ ∃ a ∈ s.attemptsOf d.deliveryKey,
      a.status = .running ∧ t.db.runningAttempt d.deliveryKey = some a ∧
      ended = a.ended .outcomeUnknown lostDuringCode lostDuringSummary now := by
  rw [recovers.session, Session.mem_recovering_attempts] at member
  obtain ⟨d, there, lost⟩ := member
  unfold ProviderDelivery.lostAttempt at lost
  split at lost
  · rename_i delivering
    rw [Option.map_eq_some_iff] at lost
    obtain ⟨a, found, eq⟩ := lost
    obtain ⟨of, running⟩ := (t.db.runningAttempt_spec d.deliveryKey).1 a found
    rw [recovers.attempts d there] at of
    exact ⟨d, there, delivering, a, of, running, found, eq.symm⟩
  · cases lost

theorem Session.Recovers.held (recovers : t.Recovers s rows now) {d : ProviderDelivery} (member : d ∈ rows) :
    Table.get ProviderDelivery.id t.deliveries d.id = some (d.recovered now) := by
  have deliveries : t.deliveries = (rows.map (ProviderDelivery.recovered · now)).reverse := by
    rw [recovers.session, Session.recovering_deliveries]
  have distinct : (t.deliveries.map ProviderDelivery.id).Nodup := by
    have := Session.recovering_rows t.db rows now
    rw [← recovers.session] at this
    rw [Session.rows] at this
    rw [this, List.nodup_reverse]
    exact recovers.distinct
  have there : d.recovered now ∈ t.deliveries := by
    rw [deliveries, List.mem_reverse]
    exact List.mem_map_of_mem member
  have := Table.get_of_mem distinct there
  rwa [ProviderDelivery.recovered_id] at this

/-- A recovery turns the rows it locked. -/
theorem Session.Recovers.turned (recovers : t.Recovers s rows now) (unique : s.Unique)
    (kept : ∀ d ∈ s.deliveries, Kept d (s.attemptsOf d.deliveryKey)) (commits : t.Commits s s')
    (locked : List String) : Store.Turned (· ∈ t.rows) locked s s' t.writeDelivery := by
  have unwritten : ∀ a ∈ s.attempts, (∀ d ∈ rows, a.deliveryKey = d.deliveryKey → a.status ≠ .running) →
      t.writeAttempt a = a := by
    intro a member idle
    refine Session.writeAttempt_other fun ended held id => ?_
    obtain ⟨d, there, -, b, of, running, -, rfl⟩ := recovers.lost held
    obtain ⟨stored, key⟩ := Store.mem_attemptsOf.mp of
    obtain rfl := unique.same_attempt stored member id
    exact idle d there key running
  have other : ∀ e ∈ s.deliveries, e.id ∉ t.rows →
      t.writeDelivery e = e ∧ s'.attemptsOf e.deliveryKey = s.attemptsOf e.deliveryKey := by
    intro e there apart
    refine ⟨Session.writeDelivery_other apart, commits.attemptsOf_other ?_ ?_⟩
    · intro a of
      obtain ⟨stored, key⟩ := Store.mem_attemptsOf.mp of
      refine unwritten a stored fun d member same => ?_
      have : d = e := unique.same_key (recovers.stored d member) there (same.symm.trans key)
      exact absurd (recovers.mem_rows.mpr ⟨d, member, by rw [this]⟩) apart
    · rw [recovers.newAttempt]
      intro a new
      cases new
  constructor
  · exact commits.deliveries
  · exact fun d => t.writeDelivery_id d
  · intro e there
    by_cases within : e.id ∈ t.rows
    · obtain ⟨d, member, same⟩ := recovers.mem_rows.mp within
      obtain rfl := unique.same_id (recovers.stored d member) there same
      have keptRow := kept d there
      rw [Session.writeDelivery_of (recovers.held member) (recovers.read d member),
        ProviderDelivery.flush_self (d.recovered_id now)]
      have after : s'.attemptsOf d.deliveryKey = (s.attemptsOf d.deliveryKey).map t.writeAttempt := by
        rw [commits.attemptsOf, recovers.newAttempt]
        simp
      have active := recovers.active d member
      by_cases delivering : d.status = .delivering
      · have recovered : d.recovered now = { d with
            status := .outcomeUnknown
            lastErrorCode := some lostDuringCode
            lastErrorSummary := some lostDuringSummary
            completedAt := some now }.clearLease := if_pos delivering
        rw [recovered]
        have ends : ∀ a ∈ s.attemptsOf d.deliveryKey, a.status = .running →
            (t.writeAttempt a).status = .outcomeUnknown := by
          intro a of running
          have found : t.db.runningAttempt d.deliveryKey = some a := by
            obtain ⟨some, none⟩ := t.db.runningAttempt_spec d.deliveryKey
            rw [recovers.attempts d member] at some none
            cases found : t.db.runningAttempt d.deliveryKey with
            | none => exact absurd running (none found a of)
            | some b =>
              obtain ⟨of', running'⟩ := some b found
              have numbers : ∀ c ∈ s.attemptsOf d.deliveryKey, c.status = .running →
                  c.attemptNumber = d.attemptCount := by
                intro c of running
                have bound := keptRow.numbered c of
                by_contra differs
                rw [keptRow.older c of (by omega)] at running
                cases running
              rw [Table.get_inj keptRow.distinct of' of
                (by rw [numbers b of' running', numbers a of running])]
          have held : a.ended .outcomeUnknown lostDuringCode lostDuringSummary now ∈ t.attempts := by
            rw [recovers.session, Session.mem_recovering_attempts]
            refine ⟨d, member, ?_⟩
            rw [ProviderDelivery.lostAttempt, if_pos delivering, found]
            rfl
          obtain ⟨ended, get⟩ := Table.get_isSome RoutingAttempt.id held
          have get : Table.get RoutingAttempt.id t.attempts a.id = some ended := get
          have is : ended.status = .outcomeUnknown := by
            obtain ⟨_, _, _, b, _, _, _, rfl⟩ := recovers.lost (Table.get_mem get)
            rfl
          have read : Table.get RoutingAttempt.id t.db.attempts a.id = some a := by
            have : a ∈ t.db.attemptsOf d.deliveryKey := by
              rw [recovers.attempts d member]
              exact of
            exact Table.get_of_mem recovers.ids (Store.mem_attemptsOf.mp this).1
          simp only [Session.writeAttempt, get, read, RoutingAttempt.flush, written_self, is]
        have idle : ∀ a ∈ s.attemptsOf d.deliveryKey, a.status ≠ .running → t.writeAttempt a = a := by
          intro a of status
          exact unwritten a (Store.mem_attemptsOf.mp of).1 fun _ _ _ => status
        refine .settled ⟨rfl, rfl, rfl, rfl⟩ delivering rfl ?_ rfl rfl t.writeAttempt after
          (fun a => (t.writeAttempt_keeps a).2.2) ?_ ?_ ?_
        · intro pending
          cases pending
        · intro a of small
          refine idle a of ?_
          rw [keptRow.older a of small]
          decide
        · intro a of last
          constructor
          · by_cases running : a.status = .running
            · rw [ends a of running]
              decide
            · rw [idle a of running]
              exact running
          · intro retries
            cases retries
        · intro retries
          cases retries
      · have leased : d.status = .leased := by
          revert active delivering
          cases d.status <;> decide
        have recovered : d.recovered now = { d with
            status := .retrying
            nextAttemptAt := some now
            lastErrorCode := some "worker_lost_before_provider_call"
            lastErrorSummary := some "The worker lease expired before provider delivery began; the job was requeued."
            }.clearLease := if_neg delivering
        rw [recovered]
        refine .released ⟨rfl, rfl, rfl, rfl⟩ leased (Or.inl rfl) rfl rfl ?_
        rw [after]
        conv_rhs => rw [← List.map_id (s.attemptsOf d.deliveryKey)]
        refine List.map_congr_left fun a of => unwritten a (Store.mem_attemptsOf.mp of).1 fun _ _ _ => ?_
        rw [(keptRow.waiting (by rw [leased]; rfl)).2 a of]
        decide
    · obtain ⟨eq, attempts⟩ := other e there within
      rw [eq]
      exact .stays (SameQueue.refl e) attempts
  · intro e there apart
    obtain ⟨eq, attempts⟩ := other e there apart
    rw [eq]
    exact ⟨SameQueue.refl e, attempts⟩
  · intro e there apart _
    exact (other e there apart).1

end Recovery

/-! ## Claims, heartbeats and deletions -/

section Updates
variable {s : Store} {locked : List String}

theorem Store.Turned.claim {id workerId leaseToken : String} {leaseSeconds : ℚ} {now : DateTime}
    (due : ∀ d ∈ s.deliveries, d.id = id → d.due now = true) :
    Store.Turned (· = id) locked s
      (s.updateDelivery id fun d => d.claimed workerId leaseToken leaseSeconds now)
      fun d => if d.id = id then d.claimed workerId leaseToken leaseSeconds now else d where
  deliveries := rfl
  ids d := by split <;> rfl
  turns d member := by
    by_cases same : d.id = id
    · rw [if_pos same]
      have := due d member same
      simp only [ProviderDelivery.due, Bool.and_eq_true] at this
      exact .claimed ⟨rfl, rfl, rfl, rfl⟩ this.1 rfl rfl rfl
    · rw [if_neg same]
      exact .stays (SameQueue.refl d) rfl
  untouched d _ differs := by
    rw [if_neg differs]
    exact ⟨SameQueue.refl d, rfl⟩
  locked d _ differs _ := if_neg differs

theorem Store.Turned.heartbeat {lease : DeliveryLease} {leaseSeconds : ℚ} {now : DateTime}
    (touched : String → Prop) (free : lease.deliveryId ∉ locked) :
    Store.Turned touched locked s
      (s.updateDelivery lease.deliveryId fun d => if d.owns lease then d.beaten leaseSeconds now else d)
      fun d => if d.id = lease.deliveryId then if d.owns lease then d.beaten leaseSeconds now else d
        else d := by
  have same : ∀ d : ProviderDelivery, SameQueue d
      (if d.id = lease.deliveryId then if d.owns lease then d.beaten leaseSeconds now else d else d) := by
    intro d
    split
    · split
      · exact ⟨⟨rfl, rfl, rfl, rfl⟩, rfl, rfl, rfl, rfl⟩
      · exact SameQueue.refl d
    · exact SameQueue.refl d
  constructor
  · rfl
  · exact fun d => (same d).id
  · exact fun d _ => .stays (same d) rfl
  · exact fun d _ _ => ⟨same d, rfl⟩
  · intro d _ _ held
    rw [if_neg]
    rintro equal
    exact free (equal ▸ held)

theorem ProviderDelivery.erased_turn (d : ProviderDelivery) (now : DateTime) (attempts : List RoutingAttempt) :
    Turn d (d.erased now) attempts attempts := by
  unfold ProviderDelivery.erased
  dsimp only
  split
  · rename_i nonterminal
    exact .cancelled ⟨rfl, rfl, rfl, rfl⟩ nonterminal rfl rfl rfl rfl
  · exact .stays ⟨⟨rfl, rfl, rfl, rfl⟩, rfl, rfl, rfl, rfl⟩ rfl

/-- An erased delivery keeps its place in the queue or loses its lease. -/
theorem ProviderDelivery.erased_place (d : ProviderDelivery) (now : DateTime) :
    SameQueue d (d.erased now) ∨ (d.erased now).leaseToken = none := by
  unfold ProviderDelivery.erased
  dsimp only
  split
  · exact Or.inr rfl
  · exact Or.inl ⟨⟨rfl, rfl, rfl, rfl⟩, rfl, rfl, rfl, rfl⟩

theorem Store.anonymize_rows {ids : List String} {now : DateTime} {s' : Store}
    (erased : s.anonymize ids now = some s') :
    s'.deliveries = (s.deliveries.map fun d => if d.leadId ∈ ids then d.erased now else d) ∧
      s'.attempts = s.attempts := by
  simp only [Store.anonymize, Option.bind_eq_bind, Option.bind_eq_some_iff] at erased
  obtain ⟨leads, -, events, -, outcomes, -, analytics, -, eq⟩ := erased
  cases eq
  exact ⟨rfl, rfl⟩

theorem Store.Turned.erase {ids : List String} {now : DateTime} {s' : Store}
    (erased : s.anonymize ids now = some s')
    (free : ∀ d ∈ s.deliveries, d.leadId ∈ ids → d.id ∉ locked) :
    Store.Turned (fun id => ∃ d ∈ s.deliveries, d.id = id ∧ d.leadId ∈ ids) locked s s'
      fun d => if d.leadId ∈ ids then d.erased now else d := by
  obtain ⟨deliveries, attempts⟩ := Store.anonymize_rows erased
  have same : ∀ key, s'.attemptsOf key = s.attemptsOf key := fun key => by
    rw [Store.attemptsOf, attempts]
    rfl
  constructor
  · exact deliveries
  · intro d
    split
    · exact (d.erased_turn now []).keeps.id
    · rfl
  · intro d member
    rw [same]
    split
    · exact d.erased_turn now _
    · exact .stays (SameQueue.refl d) rfl
  · intro d member apart
    rw [same, if_neg fun of => apart ⟨d, member, rfl, of⟩]
    exact ⟨SameQueue.refl d, rfl⟩
  · intro d member _ held
    rw [if_neg]
    intro of
    exact free d member of held

end Updates

end RankRent.Leads
