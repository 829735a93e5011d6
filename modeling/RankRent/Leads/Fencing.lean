import RankRent.Leads.Commits

/-!
# The invariant of fenced runs

What holds of deliveries, attempts, leases and open transactions in every run in
which nothing takes a delivery from under an open transaction of its worker.
-/

namespace RankRent.Leads

/-- What holds of an execution and the row of its lease: while it holds the row,
the row is where the execution left it; while a transaction is open, it holds
the row. -/
def Execution.Fits (run : Execution) (s : Store) : Prop :=
  match run.phase with
  | .claimed => ∀ d, s.delivery? run.lease.deliveryId = some d → d.owns run.lease = true → d.status = .leased
  | .beginning begun => ∃ d loaded, s.delivery? run.lease.deliveryId = some d ∧ d.owns run.lease = true ∧
      d.status = .leased ∧ begun.session.db.delivery? d.id = some loaded ∧ SameQueue loaded d ∧
      (begun.Starts begun.session.db loaded ∨ begun.Rejects begun.session.db loaded)
  | .delivering number => ∀ d, s.delivery? run.lease.deliveryId = some d → d.owns run.lease = true →
      d.status = .delivering ∧ d.attemptCount = number
  | .finishing session _ => ∃ d loaded new attempt ended now,
      s.delivery? run.lease.deliveryId = some d ∧ d.owns run.lease = true ∧ d.status = .delivering ∧
      session.db.delivery? d.id = some loaded ∧ SameQueue loaded d ∧
      session = Session.ending session.db [ended] new loaded.leadId now ∧
      Settles loaded new attempt ended ∧
      Table.get RoutingAttempt.id session.db.attempts attempt.id = some attempt ∧
      attempt ∈ s.attemptsOf d.deliveryKey ∧ attempt.attemptNumber = d.attemptCount
  | .closed => True

/-- The rows. -/
structure Store.Sound (s : Store) : Prop where
  unique : s.Unique
  leads : (s.leads.map Lead.id).Nodup
  kept : ∀ d ∈ s.deliveries, Kept d (s.attemptsOf d.deliveryKey)

/-- The calls of the adapter for a delivery. -/
def State.callsOf (s : State) (deliveryKey : String) : List Call :=
  s.calls.filter fun call => call.request.deliveryKey = deliveryKey

structure State.Fenced (s : State) : Prop where
  sound : s.store.Sound
  tokens : (s.runs.map fun run => run.lease.leaseToken).Nodup
  issued : ∀ d ∈ s.store.deliveries, ∀ token, d.leaseToken = some token →
    ∃ run ∈ s.runs, run.lease.leaseToken = token ∧ run.lease.deliveryId = d.id
  phases : ∀ run ∈ s.runs, run.Fits s.store
  recoveries : ∀ (r : Nat) t, s.recoveries[r]? = some (some t) → ∃ rows now, t.Recovers s.store rows now
  apart : ∀ (r r' : Nat) t t', s.recoveries[r]? = some (some t) → s.recoveries[r']? = some (some t') →
    r ≠ r' → ∀ id ∈ t.rows, id ∉ t'.rows
  calls : ∀ d ∈ s.store.deliveries, (s.callsOf d.deliveryKey).map Call.number =
    (s.store.attemptsOf d.deliveryKey).map RoutingAttempt.attemptNumber

theorem State.mem_locked {s : State} {id : String} :
    id ∈ s.locked ↔ ∃ (r : Nat) (t : Session), s.recoveries[r]? = some (some t) ∧ id ∈ t.rows := by
  simp only [State.locked, List.mem_flatMap]
  constructor
  · rintro ⟨t, member, there⟩
    obtain ⟨r, found⟩ := List.mem_iff_getElem?.mp member
    cases t with
    | none => cases there
    | some t => exact ⟨r, t, found, there⟩
  · rintro ⟨r, t, found, there⟩
    exact ⟨some t, List.mem_of_getElem? found, there⟩

theorem State.runs_setPhase {s : State} {e i : Nat} {phase : Phase} {run' : Execution}
    (found : (s.setPhase e phase).runs[i]? = some run') : ∃ run, s.runs[i]? = some run ∧
      (e = i ∧ run' = { run with phase := phase } ∨ e ≠ i ∧ run' = run) := by
  rw [State.setPhase, List.getElem?_modify, Option.map_eq_map, Option.map_eq_some_iff] at found
  obtain ⟨run, at_, eq⟩ := found
  refine ⟨run, at_, ?_⟩
  by_cases same : e = i
  · rw [if_pos same] at eq
    exact Or.inl ⟨same, eq.symm⟩
  · rw [if_neg same] at eq
    exact Or.inr ⟨same, eq.symm⟩

/-- A queue without workers is fenced. -/
theorem State.Queued.fenced {s : State} (queued : s.Queued) : s.Fenced where
  sound := {
    unique := ⟨queued.ids, queued.keys, queued.attempts⟩
    leads := queued.leads
    kept := by
      intro d member
      obtain ⟨status, count, max, -, token⟩ := queued.pending d member
      have none : s.store.attemptsOf d.deliveryKey = [] := by
        rw [Store.attemptsOf, List.filter_eq_nil_iff]
        intro a there
        simpa using queued.unattempted d member a there
      rw [none]
      refine ⟨by rw [count]; rfl, by omega, fun a of => (by cases of), List.Pairwise.nil, fun a of => (by cases of),
        fun _ => ⟨by omega, fun a of => (by cases of)⟩, fun a of => (by cases of), fun _ => token⟩ }
  tokens := by rw [queued.runs]; exact List.nodup_nil
  issued d member token holds := by rw [(queued.pending d member).2.2.2.2] at holds; cases holds
  phases run member := by rw [queued.runs] at member; cases member
  recoveries r t found := by rw [queued.recoveries] at found; cases found
  apart r r' t t' found := by rw [queued.recoveries] at found; cases found
  calls d member := by
    have none : s.store.attemptsOf d.deliveryKey = [] := by
      rw [Store.attemptsOf, List.filter_eq_nil_iff]
      intro a there
      simpa using queued.unattempted d member a there
    rw [none, State.callsOf, queued.calls]
    rfl

/-! ## Executions and rows -/

section Frames
variable {run : Execution} {s s' : Store} {touched : String → Prop} {locked : List String}
  {f : ProviderDelivery → ProviderDelivery}

/-- An execution still fits when its row keeps its place or is lost, and is not
touched while its transaction is open. -/
theorem Execution.Fits.frame (fits : run.Fits s) (turned : s.Turned touched locked s' f)
    (keeps : ∀ d ∈ s.deliveries, d.id = run.lease.deliveryId → (f d).owns run.lease = true → SameQueue d (f d))
    (free : run.phase.session?.isSome = true → ¬ touched run.lease.deliveryId) : run.Fits s' := by
  have back : ∀ d', s'.delivery? run.lease.deliveryId = some d' → d'.owns run.lease = true →
      ∃ d, s.delivery? run.lease.deliveryId = some d ∧ d.owns run.lease = true ∧ SameQueue d d' := by
    intro d' found owns
    rw [turned.delivery?, Option.map_eq_some_iff] at found
    obtain ⟨d, there, rfl⟩ := found
    have same := keeps d (Store.delivery?_mem there) (Store.delivery?_id there) owns
    exact ⟨d, there, by rw [← same.owns]; exact owns, same⟩
  have still : run.phase.session?.isSome = true → ∀ d, s.delivery? run.lease.deliveryId = some d →
      s'.delivery? run.lease.deliveryId = some (f d) ∧ SameQueue d (f d) ∧
        s'.attemptsOf d.deliveryKey = s.attemptsOf d.deliveryKey := by
    intro opened d found
    have is := Store.delivery?_id found
    obtain ⟨same, attempts⟩ := turned.untouched d (Store.delivery?_mem found) (by rw [is]; exact free opened)
    exact ⟨by rw [turned.delivery?, found]; rfl, same, attempts⟩
  unfold Execution.Fits at fits ⊢
  cases phase : run.phase with
  | claimed =>
    simp only [phase] at fits ⊢
    intro d' found owns
    obtain ⟨d, there, owned, same⟩ := back d' found owns
    rw [same.status]
    exact fits d there owned
  | beginning begun =>
    simp only [phase] at fits ⊢
    obtain ⟨d, loaded, found, owns, status, read, loads, shape⟩ := fits
    obtain ⟨found', same, attempts⟩ := still (by rw [phase]; rfl) d found
    exact ⟨f d, loaded, found', by rw [same.owns]; exact owns, by rw [same.status]; exact status,
      by rw [same.id]; exact read, loads.trans same, shape⟩
  | delivering number =>
    simp only [phase] at fits ⊢
    intro d' found owns
    obtain ⟨d, there, owned, same⟩ := back d' found owns
    rw [same.status, same.attemptCount]
    exact fits d there owned
  | finishing session alert =>
    simp only [phase] at fits ⊢
    obtain ⟨d, loaded, new, attempt, ended, now, found, owns, status, read, loads, shape, settles, row, of,
      newest⟩ := fits
    obtain ⟨found', same, attempts⟩ := still (by rw [phase]; rfl) d found
    refine ⟨f d, loaded, new, attempt, ended, now, found', by rw [same.owns]; exact owns,
      by rw [same.status]; exact status, by rw [same.id]; exact read, loads.trans same, shape, settles, row, ?_, ?_⟩
    · rw [same.deliveryKey, attempts]
      exact of
    · rw [same.attemptCount]
      exact newest
  | closed => trivial

/-- A recovery stays open on rows that are not touched. -/
theorem Session.Recovers.frame {t : Session} {rows : List ProviderDelivery} {now : DateTime}
    (recovers : t.Recovers s rows now) (turned : s.Turned touched locked s' f)
    (held : ∀ id ∈ t.rows, id ∈ locked) (free : ∀ id ∈ t.rows, ¬ touched id) : t.Recovers s' rows now where
  session := recovers.session
  distinct := recovers.distinct
  active := recovers.active
  stored d member := by
    have there := recovers.stored d member
    have row : d.id ∈ t.rows := recovers.mem_rows.mpr ⟨d, member, rfl⟩
    rw [turned.deliveries, List.mem_map]
    exact ⟨d, there, turned.locked d there (free d.id row) (held d.id row)⟩
  read := recovers.read
  attempts d member := by
    have row : d.id ∈ t.rows := recovers.mem_rows.mpr ⟨d, member, rfl⟩
    rw [recovers.attempts d member, (turned.untouched d (recovers.stored d member) (free d.id row)).2]
  ids := recovers.ids

end Frames

/-! ## Rows after a commit -/

theorem Store.Sound.commits {s s' : Store} {t : Session} {touched : String → Prop} {locked : List String}
    (sound : s.Sound) (commits : t.Commits s s') (turned : s.Turned touched locked s' t.writeDelivery) :
    s'.Sound where
  unique := commits.unique sound.unique fun d member => (turned.turns d member).keeps.deliveryKey
  leads := by
    rw [commits.leads, Table.keys_map fun lead => t.writeLead_id lead]
    exact sound.leads
  kept d' member := by
    rw [turned.deliveries] at member
    obtain ⟨d, there, rfl⟩ := List.mem_map.mp member
    have turn := turned.turns d there
    rw [turn.keeps.deliveryKey]
    exact turn.kept (sound.kept d there)

theorem Store.anonymize_leads {s s' : Store} {ids : List String} {now : DateTime}
    (distinct : (s.leads.map Lead.id).Nodup) (erased : s.anonymize ids now = some s') :
    s'.leads = s.leads.map fun lead => if lead.id ∈ ids then lead.erased now else lead := by
  simp only [Store.anonymize, Option.bind_eq_bind, Option.bind_eq_some_iff] at erased
  obtain ⟨leads, flushed, events, -, outcomes, -, analytics, -, eq⟩ := erased
  cases eq
  have eq := flushTable_eq distinct (fun lead : Lead => show (lead.erased now).id = lead.id from rfl) flushed
  simpa using eq

theorem Store.Sound.erase {s s' : Store} {ids : List String} {now : DateTime} (sound : s.Sound)
    (erased : s.anonymize ids now = some s') : s'.Sound := by
  obtain ⟨deliveries, attempts⟩ := Store.anonymize_rows erased
  have leads := Store.anonymize_leads sound.leads erased
  have turn : ∀ d, Turn d (if d.leadId ∈ ids then d.erased now else d) (s.attemptsOf d.deliveryKey)
      (s'.attemptsOf d.deliveryKey) := by
    intro d
    have same : s'.attemptsOf d.deliveryKey = s.attemptsOf d.deliveryKey := by
      rw [Store.attemptsOf, attempts]
      rfl
    rw [same]
    split
    · exact d.erased_turn now _
    · exact .stays (SameQueue.refl d) rfl
  constructor
  · constructor
    · rw [deliveries, Table.keys_map fun d => (turn d).keeps.id]
      exact sound.unique.ids
    · rw [deliveries, Table.keys_map fun d => (turn d).keeps.deliveryKey]
      exact sound.unique.keys
    · rw [attempts]
      exact sound.unique.attempts
  · rw [leads, Table.keys_map fun lead => by split <;> rfl]
    exact sound.leads
  · intro d' member
    rw [deliveries] at member
    obtain ⟨d, there, rfl⟩ := List.mem_map.mp member
    rw [(turn d).keeps.deliveryKey]
    exact (turn d).kept (sound.kept d there)

/-! ## Parts of a step -/

section Steps
variable {s : State}

/-- A new phase that fits the row of its lease. -/
theorem State.Fenced.setPhase (fenced : s.Fenced) (e : Nat) (phase : Phase)
    (fits : ∀ run, s.runs[e]? = some run → Execution.Fits { run with phase := phase } s.store) :
    (s.setPhase e phase).Fenced := by
  have leases : ((s.setPhase e phase).runs.map Execution.lease) = s.runs.map Execution.lease := by
    apply List.ext_getElem?
    intro i
    simp only [State.setPhase, List.getElem?_map, List.getElem?_modify]
    cases s.runs[i]? with
    | none => rfl
    | some run => by_cases same : e = i <;> simp [same]
  have tokens : ((s.setPhase e phase).runs.map fun run => run.lease.leaseToken) =
      s.runs.map fun run => run.lease.leaseToken := by
    have := congrArg (List.map DeliveryLease.leaseToken) leases
    simpa only [List.map_map, Function.comp_def] using this
  constructor
  · exact fenced.sound
  · rw [tokens]
    exact fenced.tokens
  · intro d member token holds
    obtain ⟨run, there, same, of⟩ := fenced.issued d member token holds
    have lease : run.lease ∈ (s.setPhase e phase).runs.map Execution.lease := by
      rw [leases]
      exact List.mem_map_of_mem there
    obtain ⟨run', there', eq⟩ := List.mem_map.mp lease
    exact ⟨run', there', by rw [eq]; exact same, by rw [eq]; exact of⟩
  · intro run' member
    obtain ⟨i, found⟩ := List.mem_iff_getElem?.mp member
    obtain ⟨run, at_, ⟨rfl, rfl⟩ | ⟨-, rfl⟩⟩ := State.runs_setPhase found
    · exact fits run at_
    · exact fenced.phases _ (List.mem_of_getElem? at_)
  · exact fenced.recoveries
  · exact fenced.apart
  · exact fenced.calls

/-- A recovery that is over. -/
theorem State.Fenced.dropRecovery (fenced : s.Fenced) (r : Nat) :
    State.Fenced { s with recoveries := s.recoveries.set r none } := by
  have back : ∀ (r' : Nat) (t : Session), (s.recoveries.set r none)[r']? = some (some t) →
      r ≠ r' ∧ s.recoveries[r']? = some (some t) := by
    intro r' t found
    obtain ⟨-, eq⟩ | holds := Table.getElem?_set_cases found
    · cases eq
    · exact holds
  constructor
  · exact fenced.sound
  · exact fenced.tokens
  · exact fenced.issued
  · exact fenced.phases
  · exact fun r' t found => fenced.recoveries r' t (back r' t found).2
  · exact fun i j t t' first second => fenced.apart i j t t' (back i t first).2 (back j t' second).2
  · exact fenced.calls

/-- A commit that its executions and its open recoveries survive. -/
theorem State.Fenced.commits (fenced : s.Fenced) {touched : String → Prop} {store : Store}
    {f : ProviderDelivery → ProviderDelivery} {calls : List Call} {alerts : List Alert}
    (turned : s.store.Turned touched s.locked store f) (sound : store.Sound)
    (free : ∀ id ∈ s.locked, ¬ touched id)
    (issued : ∀ d ∈ s.store.deliveries, ∀ token, (f d).leaseToken = some token →
      d.leaseToken = some token ∨ ∃ run ∈ s.runs, run.lease.leaseToken = token ∧ run.lease.deliveryId = d.id)
    (phases : ∀ run ∈ s.runs, run.Fits store)
    (numbers : ∀ d ∈ s.store.deliveries,
      (calls.filter fun call => call.request.deliveryKey = d.deliveryKey).map Call.number =
        (store.attemptsOf d.deliveryKey).map RoutingAttempt.attemptNumber) :
    State.Fenced { s with store := store, calls := calls, alerts := alerts } := by
  constructor
  · exact sound
  · exact fenced.tokens
  · intro d' member token holds
    rw [turned.deliveries] at member
    obtain ⟨d, there, rfl⟩ := List.mem_map.mp member
    rw [turned.ids]
    obtain before | now := issued d there token holds
    · exact fenced.issued d there token before
    · exact now
  · exact phases
  · intro r t found
    obtain ⟨rows, now, recovers⟩ := fenced.recoveries r t found
    have held : ∀ id ∈ t.rows, id ∈ s.locked := fun id row => State.mem_locked.mpr ⟨r, t, found, row⟩
    exact ⟨rows, now, recovers.frame turned held fun id row => free id (held id row)⟩
  · exact fenced.apart
  · intro d' member
    rw [turned.deliveries] at member
    obtain ⟨d, there, rfl⟩ := List.mem_map.mp member
    rw [(turned.turns d there).keeps.deliveryKey]
    exact numbers d there

/-- The executions a commit of no one's transaction leaves fitting. -/
theorem State.Fenced.unmoved (fenced : s.Fenced) {touched : String → Prop} {store : Store}
    {f : ProviderDelivery → ProviderDelivery} {locked : List String}
    (turned : s.store.Turned touched locked store f)
    (lost : ∀ d ∈ s.store.deliveries, touched d.id → SameQueue d (f d) ∨
      ∀ run ∈ s.runs, (f d).owns run.lease = false)
    (undisturbed : ∀ id, touched id → ¬ s.OpenOn id) : ∀ run ∈ s.runs, run.Fits store := by
  intro run member
  refine (fenced.phases run member).frame turned ?_ ?_
  · intro d there _ owns
    by_cases within : touched d.id
    · obtain same | free := lost d there within
      · exact same
      · rw [free run member] at owns
        cases owns
    · exact (turned.untouched d there within).1
  · intro opened within
    exact undisturbed _ within ⟨run, member, opened, rfl⟩

theorem owns_of_none {d : ProviderDelivery} (token : d.leaseToken = none) (lease : DeliveryLease) :
    d.owns lease = false := by
  simp [ProviderDelivery.owns, token]

end Steps

end RankRent.Leads
