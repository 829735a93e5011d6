import RankRent.Leads.Queue

/-!
# Fencing of the delivery writes

`run_delivery_by_id` compares its lease on a plain read and then writes by
primary key. The comparison still holds at the commit just when no recovery and
no deletion took the row in between.
-/

namespace RankRent.Leads

/-- No delivery of a deleted lead is on its way. -/
def Store.Withdrawn (s : Store) : Prop :=
  ∀ lead ∈ s.leads, lead.status = .deleted →
    ∀ d ∈ s.deliveries, d.leadId = lead.id → d.status.nonterminal = false

/-- A commit of an execution writes only while the row of its lease is active
and carries the lease. -/
def State.WritesOwn (s : State) (e : Nat) : Prop :=
  ∀ run ∈ s.runs[e]?, (s.apply (.commit e)).store ≠ s.store →
    ∃ d, s.store.delivery? run.lease.deliveryId = some d ∧ d.owns run.lease = true

/-- What one step does to deliveries and leads. -/
structure Store.Moved (s s' : Store) (f : ProviderDelivery → ProviderDelivery) (g : Lead → Lead) : Prop where
  deliveries : s'.deliveries = s.deliveries.map f
  turns : ∀ d ∈ s.deliveries, Turn d (f d) (s.attemptsOf d.deliveryKey) (s'.attemptsOf d.deliveryKey)
  leads : s'.leads = s.leads.map g
  ids : ∀ lead, (g lead).id = lead.id
  deleted : ∀ lead ∈ s.leads, lead.status = .deleted → (g lead).status = .deleted
  withdrawn : ∀ lead ∈ s.leads, lead.status ≠ .deleted → (g lead).status = .deleted →
    ∀ d ∈ s.deliveries, d.leadId = lead.id → (f d).status.nonterminal = false

section Moves
variable {s s' : Store} {f : ProviderDelivery → ProviderDelivery} {g : Lead → Lead}

theorem Store.Moved.kept (moved : s.Moved s' f g) (withdrawn : s.Withdrawn) : s'.Withdrawn := by
  intro lead' there status d' member of
  rw [moved.leads] at there
  rw [moved.deliveries] at member
  obtain ⟨lead, inside, rfl⟩ := List.mem_map.mp there
  obtain ⟨d, within, rfl⟩ := List.mem_map.mp member
  have turn := moved.turns d within
  rw [turn.keeps.leadId, moved.ids] at of
  by_cases before : lead.status = .deleted
  · have ended := withdrawn lead inside before d within of
    rw [(turn.terminal ended).1]
    exact ended
  · exact moved.withdrawn lead inside before status d within of

/-- A step that leaves the leads alone. -/
theorem Store.Turned.moved {touched : String → Prop} {locked : List String}
    (turned : s.Turned touched locked s' f) (leads : s'.leads = s.leads) : s.Moved s' f id where
  deliveries := turned.deliveries
  turns := turned.turns
  leads := by rw [leads, List.map_id]
  ids lead := rfl
  deleted lead _ status := status
  withdrawn lead _ alive deleted := absurd deleted alive

/-- A session that refreshes only leads of deliveries on their way. -/
theorem Session.Commits.moved {t : Session} {touched : String → Prop} {locked : List String}
    (commits : t.Commits s s') (turned : s.Turned touched locked s' t.writeDelivery) (withdrawn : s.Withdrawn)
    (alive : ∀ lead ∈ t.leads, lead.status ≠ .deleted ∧
      ∃ d ∈ s.deliveries, d.leadId = lead.id ∧ d.status.nonterminal = true) :
    s.Moved s' t.writeDelivery t.writeLead where
  deliveries := turned.deliveries
  turns := turned.turns
  leads := commits.leads
  ids lead := t.writeLead_id lead
  deleted lead member status := by
    rw [Session.writeLead_other]
    · exact status
    · intro held there same
      obtain ⟨-, d, within, of, nonterminal⟩ := alive held there
      rw [withdrawn lead member status d within (of.trans same)] at nonterminal
      cases nonterminal
  withdrawn lead _ before after :=
    absurd after (t.writeLead_status (fun held there => (alive held there).1) before)

theorem Store.erase_moved {ids : List String} {now : DateTime} (leads : (s.leads.map Lead.id).Nodup)
    (erased : s.anonymize ids now = some s') :
    s.Moved s' (fun d => if d.leadId ∈ ids then d.erased now else d)
      fun lead => if lead.id ∈ ids then lead.erased now else lead := by
  have turned : s.Turned _ [] s' _ := Store.Turned.erase erased fun d _ _ none => by cases none
  constructor
  · exact turned.deliveries
  · exact turned.turns
  · exact Store.anonymize_leads leads erased
  · intro lead
    split <;> rfl
  · intro lead _ status
    split
    · rfl
    · exact status
  · intro lead _ before after d _ of
    by_cases within : lead.id ∈ ids
    · rw [of, if_pos within]
      unfold ProviderDelivery.erased
      dsimp only
      split
      · rfl
      · rename_i terminal
        simpa using terminal
    · rw [if_neg within] at after
      exact absurd after before

end Moves

/-! ## Steps -/

section Steps
variable {s : State}

/-- What an execution commits, it commits on its own row. -/
theorem State.Fenced.own_commit (fenced : s.Fenced) {run : Execution} (member : run ∈ s.runs) {t : Session}
    (opened : run.phase.session? = some t) {store : Store} (committed : t.commit s.store = some store) :
    ∃ d, s.store.delivery? run.lease.deliveryId = some d ∧ d.owns run.lease = true ∧
      t.Commits s.store store ∧ s.store.Turned (· = d.id) s.locked store t.writeDelivery ∧
      ∀ lead ∈ t.leads, lead.id = d.leadId ∧ lead.status ≠ .deleted := by
  have fits := fenced.phases run member
  have commits := Session.commits committed
  unfold Execution.Fits at fits
  cases phase : run.phase with
  | beginning begun =>
    rw [phase] at opened
    cases opened
    simp only [phase] at fits
    obtain ⟨d, loaded, found, owns, leased, read, loads, shape⟩ := fits
    have there := Store.delivery?_mem found
    refine ⟨d, found, owns, commits, ?_, ?_⟩
    · obtain starts | rejects := shape
      · exact starts.turned fenced.sound.unique s.locked there read loads leased commits
      · exact rejects.turned fenced.sound.unique s.locked there read loads leased commits
    · intro lead held
      obtain ⟨request, attempt, eq, -⟩ | ⟨errorCode, summary, now, eq, -⟩ := shape
      · rw [eq] at held
        cases held
      · rw [eq] at held
        rw [loads.leadId]
        exact Session.ending_leads _ _ _ _ _ held
  | finishing session alert =>
    rw [phase] at opened
    cases opened
    simp only [phase] at fits
    obtain ⟨d, loaded, new, attempt, ended, now, found, owns, delivering, read, loads, shape, settles, row, of,
      newest⟩ := fits
    have there := Store.delivery?_mem found
    refine ⟨d, found, owns, commits, ?_, ?_⟩
    · exact settles.turned shape fenced.sound.unique s.locked (fenced.sound.kept d there) there read loads
        delivering row of newest commits
    · intro lead held
      rw [shape] at held
      rw [loads.leadId]
      exact Session.ending_leads _ _ _ _ _ held
  | claimed => rw [phase] at opened; cases opened
  | delivering number => rw [phase] at opened; cases opened
  | closed => rw [phase] at opened; cases opened

/-- What the commit of an execution stores. -/
theorem State.commit_store (run : Execution) (e : Nat) : (s.commit e run).store = s.store ∨
    ∃ t store, run.phase.session? = some t ∧ t.commit s.store = some store ∧ (s.commit e run).store = store := by
  unfold State.commit
  split
  · exact Or.inl rfl
  · split
    · rename_i begun phase
      unfold State.commitBegun
      split
      · exact Or.inl rfl
      · rename_i store committed
        refine Or.inr ⟨begun.session, store, by rw [phase]; rfl, committed, ?_⟩
        split <;> rfl
    · rename_i session alert phase
      unfold State.commitFinished
      split
      · exact Or.inl rfl
      · rename_i store committed
        exact Or.inr ⟨session, store, by rw [phase]; rfl, committed, rfl⟩
    · exact Or.inl rfl

/-- The session a step commits. -/
def State.committing (s : State) : Op → Option Session
  | .commit e => s.runs[e]?.bind fun run => run.phase.session?
  | .commitRecovery r => s.recoveries[r]?.join
  | _ => none

/-- What a step writes. -/
inductive State.Writes (s : State) (op : Op) (store : Store) : Prop
  | nothing (same : store = s.store)
  | assignments (assignments : List ProviderAssignment)
      (written : store = { s.store with assignments := assignments })
  | claim (d : ProviderDelivery) (workerId leaseToken : String) (leaseSeconds : ℚ) (now : DateTime)
      (there : d ∈ s.store.deliveries) (due : d.due now = true)
      (written : store = s.store.updateDelivery d.id fun d => d.claimed workerId leaseToken leaseSeconds now)
  | heartbeat (lease : DeliveryLease) (leaseSeconds : ℚ) (now : DateTime)
      (written : store = s.store.updateDelivery lease.deliveryId fun d =>
        if d.owns lease then d.beaten leaseSeconds now else d)
  | commit (t : Session) (commits : s.committing op = some t) (written : t.commit s.store = some store)
  | erase (ids : List String) (now : DateTime) (written : s.store.anonymize ids now = some store)

theorem State.apply_store (op : Op) : s.Writes op (s.apply op).store := by
  cases op with
  | claim id workerId leaseToken leaseSeconds now =>
    simp only [State.apply, State.claim]
    split
    · exact .nothing rfl
    · rename_i d found
      split
      · rename_i due
        refine .claim d workerId leaseToken leaseSeconds now (Store.delivery?_mem found) due ?_
        rw [Store.delivery?_id found]
      · exact .nothing rfl
  | heartbeat e leaseSeconds now =>
    simp only [State.apply]
    split
    · exact .nothing rfl
    · rename_i run at_
      unfold State.heartbeat
      split
      · exact .nothing rfl
      · split
        · exact .heartbeat run.lease leaseSeconds now rfl
        · exact .nothing rfl
  | begin e adapters now =>
    simp only [State.apply, State.begin]
    repeat' split
    all_goals exact .nothing rfl
  | finish e outcome base maximum now =>
    simp only [State.apply, State.finish]
    repeat' split
    all_goals exact .nothing rfl
  | commit e =>
    simp only [State.apply]
    split
    · exact .nothing rfl
    · rename_i run at_
      obtain eq | ⟨t, store, opened, committed, eq⟩ := s.commit_store run e
      · exact .nothing eq
      · refine .commit t ?_ (by rw [eq]; exact committed)
        simp only [State.committing, at_, Option.bind_some, opened]
  | crash e => exact .nothing rfl
  | recover staleAfterSeconds now => exact .nothing rfl
  | commitRecovery r =>
    simp only [State.apply]
    split
    · rename_i t opened
      unfold State.commitRecovery
      cases committed : t.commit s.store with
      | none => exact .nothing rfl
      | some store =>
        refine .commit t ?_ committed
        simp only [State.committing, opened, Option.join_some]
    · exact .nothing rfl
  | crashRecovery r => exact .nothing rfl
  | deleteLead leadId role now =>
    simp only [State.apply, State.deleteLead]
    split
    · exact .nothing rfl
    · unfold Leads.deleteLead
      split
      · exact .nothing rfl
      · split
        · exact .nothing rfl
        · split
          · exact .nothing rfl
          · rename_i store erased
            exact .erase _ now erased
  | assign assignments => exact .assignments assignments rfl

/-- A commit moves the rows of its session. -/
theorem State.Fenced.commit_moved (fenced : s.Fenced) (withdrawn : s.store.Withdrawn) {op : Op} {t : Session}
    (commits : s.committing op = some t) {store : Store} (committed : t.commit s.store = some store) :
    s.store.Moved store t.writeDelivery t.writeLead := by
  cases op with
  | commit e =>
    obtain ⟨run, at_, opened⟩ := Option.bind_eq_some_iff.mp commits
    obtain ⟨d, found, owns, commits, turned, leads⟩ :=
      fenced.own_commit (List.mem_of_getElem? at_) opened committed
    refine commits.moved turned withdrawn fun lead held => ?_
    obtain ⟨id, status⟩ := leads lead held
    exact ⟨status, d, Store.delivery?_mem found, id.symm,
      DeliveryStatus.nonterminal_of_active (ProviderDelivery.owns_iff.mp owns).1⟩
  | commitRecovery r =>
    have opened : s.recoveries[r]? = some (some t) := Option.join_eq_some_iff.mp commits
    obtain ⟨rows, now, recovers⟩ := fenced.recoveries r t opened
    have commits := Session.commits committed
    have turned := recovers.turned fenced.sound.unique fenced.sound.kept commits []
    refine commits.moved turned withdrawn fun lead held => ?_
    rw [recovers.session] at held
    obtain ⟨status, d, there, id⟩ := Session.recovering_leads _ _ _ held
    exact ⟨status, d, recovers.stored d there, id.symm,
      DeliveryStatus.nonterminal_of_active (recovers.active d there)⟩
  | _ => cases commits

/-- Every step of a fenced run moves the rows. -/
theorem State.Fenced.moved (fenced : s.Fenced) (withdrawn : s.store.Withdrawn) (op : Op) :
    ∃ f g, s.store.Moved (s.apply op).store f g := by
  cases s.apply_store op with
  | nothing same =>
    have turned : s.store.Turned (fun _ => False) [] (s.apply op).store id :=
      Store.Turned.refl (by rw [same]) (by rw [same])
    exact ⟨_, _, turned.moved (by rw [same])⟩
  | assignments assignments written =>
    have turned : s.store.Turned (fun _ => False) [] (s.apply op).store id :=
      Store.Turned.refl (by rw [written]) (by rw [written])
    exact ⟨_, _, turned.moved (by rw [written])⟩
  | claim d workerId leaseToken leaseSeconds now there due written =>
    have turned : s.store.Turned (· = d.id) []
        (s.store.updateDelivery d.id fun d => d.claimed workerId leaseToken leaseSeconds now) _ :=
      Store.Turned.claim fun e member same => by
        have is : e = d := fenced.sound.unique.same_id member there same
        rw [is]
        exact due
    rw [written]
    exact ⟨_, _, turned.moved rfl⟩
  | heartbeat lease leaseSeconds now written =>
    have turned : s.store.Turned (fun _ => False) [] (s.store.updateDelivery lease.deliveryId fun d =>
        if d.owns lease then d.beaten leaseSeconds now else d) _ :=
      Store.Turned.heartbeat _ (by simp)
    rw [written]
    exact ⟨_, _, turned.moved rfl⟩
  | commit t commits written => exact ⟨_, _, fenced.commit_moved withdrawn commits written⟩
  | erase ids now written => exact ⟨_, _, Store.erase_moved fenced.sound.leads written⟩

end Steps

/-! ## Runs -/

/-- A step of a fenced run. -/
def State.Allows (s : State) (op : Op) : Prop := s.Unused op.token ∧ s.Undisturbed op

/-- The invariant of fenced runs, with the leads. -/
structure State.Safe (s : State) : Prop where
  fenced : s.Fenced
  withdrawn : s.store.Withdrawn

abbrev Runs (ok : State → Op → Prop) : State → State → Prop :=
  Runs.Reaches ok fun s op t => t = s.apply op

section Runs
variable {s t : State}

theorem State.Safe.apply (safe : s.Safe) {op : Op} (allowed : s.Allows op) : (s.apply op).Safe where
  fenced := safe.fenced.apply op allowed.1 allowed.2
  withdrawn := by
    obtain ⟨f, g, moved⟩ := safe.fenced.moved safe.withdrawn op
    exact moved.kept safe.withdrawn

theorem State.Safe.runs (safe : s.Safe) (run : Runs State.Allows s t) : t.Safe := by
  refine run.invariant (I := State.Safe) ?_ safe
  rintro s op t safe allowed rfl
  exact safe.apply allowed

/-- A delivery that is over stays as it is. -/
theorem State.Safe.terminal (safe : s.Safe) (run : Runs State.Allows s t) {d : ProviderDelivery}
    (member : d ∈ s.store.deliveries) (ended : d.status.nonterminal = false) :
    ∃ d', t.store.delivery? d.id = some d' ∧ d'.status = d.status := by
  have holds : t.Safe ∧ ∃ d', t.store.delivery? d.id = some d' ∧ d'.status = d.status := by
    refine run.invariant (I := fun t => t.Safe ∧ ∃ d', t.store.delivery? d.id = some d' ∧ d'.status = d.status)
      ?_ ⟨safe, d, safe.fenced.sound.unique.delivery? member, rfl⟩
    rintro u op _ ⟨safe, d', found, status⟩ allowed rfl
    refine ⟨safe.apply allowed, ?_⟩
    obtain ⟨f, g, moved⟩ := safe.fenced.moved safe.withdrawn op
    have turn := moved.turns d' (Store.delivery?_mem found)
    have next : f d' ∈ (u.apply op).store.deliveries := by
      rw [moved.deliveries]
      exact List.mem_map_of_mem (Store.delivery?_mem found)
    have id : (f d').id = d.id := turn.keeps.id.trans (Store.delivery?_id found)
    refine ⟨f d', ?_, ?_⟩
    · rw [← id]
      exact (safe.apply allowed).fenced.sound.unique.delivery? next
    · rw [(turn.terminal (by rw [status]; exact ended)).1, status]
  exact holds.2

/-- A deleted lead stays deleted. -/
theorem State.Safe.deleted (safe : s.Safe) (run : Runs State.Allows s t) {lead : Lead}
    (member : lead ∈ s.store.leads) (status : lead.status = .deleted) :
    ∃ lead', t.store.lead? lead.id = some lead' ∧ lead'.status = .deleted := by
  have holds : t.Safe ∧ ∃ lead', t.store.lead? lead.id = some lead' ∧ lead'.status = .deleted := by
    refine run.invariant (I := fun t => t.Safe ∧ ∃ lead', t.store.lead? lead.id = some lead' ∧
      lead'.status = .deleted) ?_ ⟨safe, lead, Table.get_of_mem safe.fenced.sound.leads member, status⟩
    rintro u op _ ⟨safe, lead', found, status⟩ allowed rfl
    refine ⟨safe.apply allowed, ?_⟩
    obtain ⟨f, g, moved⟩ := safe.fenced.moved safe.withdrawn op
    refine ⟨g lead', ?_, moved.deleted lead' (Table.get_mem found) status⟩
    rw [Store.lead?, moved.leads, Table.get_map moved.ids]
    rw [Store.lead?] at found
    rw [found]
    rfl
  exact holds.2

/-- Of two calls for a delivery, the attempt of the first failed and could be
retried. -/
theorem State.Fenced.calls_apart (fenced : s.Fenced) {d : ProviderDelivery}
    (member : d ∈ s.store.deliveries) : (s.callsOf d.deliveryKey).Pairwise fun call _ =>
      ∃ a ∈ s.store.attemptsOf d.deliveryKey, a.attemptNumber = call.number ∧
        a.status = .retryableFailure := by
  have kept := fenced.sound.kept d member
  have same := fenced.calls d member
  have ordered := kept.ordered
  rw [← same, List.pairwise_map] at ordered
  refine ordered.imp_of_mem fun {call later} first second less => ?_
  have there : ∀ c ∈ s.callsOf d.deliveryKey, ∃ a ∈ s.store.attemptsOf d.deliveryKey,
      a.attemptNumber = c.number := by
    intro c within
    have := List.mem_map_of_mem (f := Call.number) within
    rw [same] at this
    exact List.mem_map.mp this
  obtain ⟨a, of, number⟩ := there call first
  obtain ⟨b, of', number'⟩ := there later second
  have bound := kept.numbered b of'
  exact ⟨a, of, number, kept.older a of (by omega)⟩

/-- A commit of an execution in a fenced run is fenced. -/
theorem State.Fenced.writesOwn (fenced : s.Fenced) (e : Nat) : s.WritesOwn e := by
  intro run at_ changes
  have at_ : s.runs[e]? = some run := at_
  simp only [State.apply, at_] at changes
  obtain same | ⟨t, store, opened, committed, -⟩ := s.commit_store run e
  · exact absurd same changes
  · obtain ⟨d, found, owns, -⟩ := fenced.own_commit (List.mem_of_getElem? at_) opened committed
    exact ⟨d, found, owns⟩

end Runs

/-- While no recovery takes a row, and no deletion a lead, from under an open
transaction of `run_delivery_by_id`, the writes of its transactions are fenced. -/
theorem delivery_writes_fenced {start s : State} (queued : start.Queued) (withdrawn : start.store.Withdrawn)
    (run : Runs State.Allows start s) :
    (∀ e, s.WritesOwn e) ∧
    (∀ d ∈ s.store.deliveries, (s.callsOf d.deliveryKey).Pairwise fun call _ =>
      ∃ a ∈ s.store.attemptsOf d.deliveryKey, a.attemptNumber = call.number ∧
        a.status = .retryableFailure) ∧
    ∀ t, Runs State.Allows s t →
      (∀ d ∈ s.store.deliveries, d.status = .outcomeUnknown ∨ d.status = .cancelled →
        ∃ d', t.store.delivery? d.id = some d' ∧ d'.status = d.status) ∧
      ∀ lead ∈ s.store.leads, lead.status = .deleted →
        ∃ lead', t.store.lead? lead.id = some lead' ∧ lead'.status = .deleted := by
  have safe : s.Safe := State.Safe.runs ⟨queued.fenced, withdrawn⟩ run
  refine ⟨safe.fenced.writesOwn, fun d member => safe.fenced.calls_apart member, fun t later => ⟨?_, ?_⟩⟩
  · intro d member status
    refine safe.terminal later member ?_
    obtain status | status := status <;> rw [status] <;> rfl
  · intro lead member status
    exact safe.deleted later member status

/-! ## Commits from under which the row is taken -/

namespace Sample

def accepted : AdapterOutcome := .returned ⟨"message-1", true, false⟩

/-- The lead is deleted between the last read and the last commit. -/
def deletedMeanwhile : List Op := [
  .claim "delivery-1" "worker-1" "token-1" 30 0,
  .begin 0 adapters 1,
  .commit 0,
  .finish 0 accepted 30 3600 2,
  .deleteLead "lead-1" .operator 3]

/-- The row is recovered and claimed again between the first read and the first
commit. -/
def reclaimedMeanwhile : List Op := [
  .claim "delivery-1" "worker-1" "token-1" 30 0,
  .begin 0 adapters 1,
  .recover 30 100,
  .commitRecovery 0,
  .claim "delivery-1" "worker-2" "token-2" 30 101,
  .commit 0,
  .begin 1 adapters 102,
  .commit 1]

/-- An undisturbed delivery. -/
def undisturbed : List Op := [
  .claim "delivery-1" "worker-1" "token-1" 30 0,
  .begin 0 adapters 1,
  .commit 0]

def after (ops : List Op) : State := ops.foldl State.apply (start [byEmail])

end Sample

/-- A deleted lead becomes delivered by a commit without a lease, and two workers
call the adapter with nothing recorded between them. -/
theorem delivery_writes_unfenced :
    Runs (fun s op => s.Unused op.token) (Sample.start [Sample.byEmail]) (Sample.after Sample.deletedMeanwhile) ∧
      ¬ (Sample.after Sample.deletedMeanwhile).WritesOwn 0 ∧
      (Sample.after Sample.deletedMeanwhile).store.deliveries.map (·.status) = [.cancelled] ∧
      (Sample.after Sample.deletedMeanwhile).store.leads.map (·.status) = [.deleted] ∧
      ((Sample.after Sample.deletedMeanwhile).apply (.commit 0)).store.deliveries.map (·.status) = [.delivered] ∧
      ((Sample.after Sample.deletedMeanwhile).apply (.commit 0)).store.leads.map (·.status) = [.delivered] ∧
    Runs (fun s op => s.Unused op.token) (Sample.start [Sample.byEmail]) (Sample.after Sample.reclaimedMeanwhile) ∧
      (Sample.after Sample.reclaimedMeanwhile).calls.map (·.lease.workerId) = ["worker-1", "worker-2"] ∧
      (Sample.after Sample.reclaimedMeanwhile).store.attempts.map (·.status) = [.running, .running] := by
  have deleted : Runs.Allowed (fun (s : State) op => s.Unused op.token) State.apply
      (Sample.start [Sample.byEmail]) Sample.deletedMeanwhile := by decide +kernel
  have reclaimed : Runs.Allowed (fun (s : State) op => s.Unused op.token) State.apply
      (Sample.start [Sample.byEmail]) Sample.reclaimedMeanwhile := by decide +kernel
  have before : (Sample.after Sample.deletedMeanwhile).store.deliveries.map (·.status) = [.cancelled] := by
    decide +kernel
  have after : ((Sample.after Sample.deletedMeanwhile).apply (.commit 0)).store.deliveries.map (·.status) =
      [.delivered] := by decide +kernel
  have unowned : ¬ (Sample.after Sample.deletedMeanwhile).WritesOwn 0 := by
    intro fenced
    have run : (Sample.after Sample.deletedMeanwhile).runs[0]?.map (·.lease) =
        some ⟨"delivery-1", "worker-1", "token-1"⟩ := by decide +kernel
    obtain ⟨run, at_, lease⟩ := Option.map_eq_some_iff.mp run
    obtain ⟨d, found, owns⟩ := fenced run at_ fun same => by
      rw [same, before] at after
      cases after
    have status : d.status ∈ (Sample.after Sample.deletedMeanwhile).store.deliveries.map (·.status) :=
      List.mem_map_of_mem (Store.delivery?_mem found)
    rw [before, List.mem_singleton] at status
    have active := (ProviderDelivery.owns_iff.mp owns).1
    rw [status] at active
    cases active
  refine ⟨deleted.reaches, unowned, before, ?_, after, ?_, reclaimed.reaches, ?_, ?_⟩
  · decide +kernel
  · decide +kernel
  · decide +kernel
  · decide +kernel

theorem undisturbed_delivery_fenced : (Sample.after Sample.undisturbed).WritesOwn 0 := by
  have fresh : Runs.Allowed (fun (s : State) op => s.Unused op.token) State.apply
      (Sample.start [Sample.byEmail]) Sample.undisturbed := by decide +kernel
  have withdrawn : (Sample.store [Sample.byEmail]).Withdrawn := by
    intro lead member status
    simp only [Sample.store, List.mem_singleton] at member
    rw [member] at status
    cases status
  obtain ⟨first, second, third, -⟩ := fresh
  have allowed : Runs.Allowed State.Allows State.apply (Sample.start [Sample.byEmail]) Sample.undisturbed :=
    ⟨⟨first, trivial⟩, ⟨second, trivial⟩, ⟨third, trivial⟩, trivial⟩
  exact (delivery_writes_fenced Sample.queued withdrawn allowed.reaches).1 0

end RankRent.Leads
