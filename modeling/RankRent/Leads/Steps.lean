import RankRent.Leads.Fencing

/-!
# Fenced steps

Every step keeps the invariant when it draws a fresh token and disturbs no open
transaction.
-/

namespace RankRent.Leads

theorem Store.Sound.updated {s s' : Store} {touched : String → Prop} {locked : List String}
    {f : ProviderDelivery → ProviderDelivery} (sound : s.Sound) (turned : s.Turned touched locked s' f)
    (attempts : s'.attempts = s.attempts) (leads : s'.leads = s.leads) : s'.Sound where
  unique := {
    ids := by
      rw [turned.deliveries, Table.keys_map turned.ids]
      exact sound.unique.ids
    keys := by
      have same : (s.deliveries.map f).map ProviderDelivery.deliveryKey =
          s.deliveries.map ProviderDelivery.deliveryKey := by
        rw [List.map_map]
        exact List.map_congr_left fun d member => (turned.turns d member).keeps.deliveryKey
      rw [turned.deliveries, same]
      exact sound.unique.keys
    attempts := by
      rw [attempts]
      exact sound.unique.attempts }
  leads := by
    rw [leads]
    exact sound.leads
  kept d' member := by
    rw [turned.deliveries] at member
    obtain ⟨d, there, rfl⟩ := List.mem_map.mp member
    have turn := turned.turns d there
    rw [turn.keeps.deliveryKey]
    exact turn.kept (sound.kept d there)

section Steps
variable {s : State}

/-- The calls of a delivery are its attempts, also when a commit adds neither. -/
theorem State.Fenced.numbers (fenced : s.Fenced) {store : Store}
    (same : ∀ key, (store.attemptsOf key).map RoutingAttempt.attemptNumber =
      (s.store.attemptsOf key).map RoutingAttempt.attemptNumber) :
    ∀ d ∈ s.store.deliveries,
      (s.calls.filter fun call => call.request.deliveryKey = d.deliveryKey).map Call.number =
        (store.attemptsOf d.deliveryKey).map RoutingAttempt.attemptNumber := by
  intro d member
  rw [same]
  exact fenced.calls d member

theorem not_claimable_of_active {status : DeliveryStatus} (active : status.active = true) :
    status.claimable = false := by
  revert active
  cases status <;> decide

/-- A locked row is active. -/
theorem State.Fenced.locked_active (fenced : s.Fenced) {d : ProviderDelivery} (member : d ∈ s.store.deliveries)
    (held : d.id ∈ s.locked) : d.status.active = true := by
  obtain ⟨r, t, found, row⟩ := State.mem_locked.mp held
  obtain ⟨rows, now, recovers⟩ := fenced.recoveries r t found
  obtain ⟨d', there, same⟩ := recovers.mem_rows.mp row
  obtain rfl := fenced.sound.unique.same_id (recovers.stored d' there) member same
  exact recovers.active d' there

/-- The row of an open transaction. -/
theorem State.Fenced.holds (fenced : s.Fenced) {run : Execution} (member : run ∈ s.runs)
    (opened : run.phase.session?.isSome = true) : ∃ d, s.store.delivery? run.lease.deliveryId = some d ∧
      d.owns run.lease = true := by
  have fits := fenced.phases run member
  unfold Execution.Fits at fits
  cases phase : run.phase with
  | beginning begun =>
    simp only [phase] at fits
    obtain ⟨d, -, found, owns, -⟩ := fits
    exact ⟨d, found, owns⟩
  | finishing session alert =>
    simp only [phase] at fits
    obtain ⟨d, -, -, -, -, -, found, owns, -⟩ := fits
    exact ⟨d, found, owns⟩
  | claimed => rw [phase] at opened; cases opened
  | delivering number => rw [phase] at opened; cases opened
  | closed => rw [phase] at opened; cases opened

theorem State.Fenced.claim (fenced : s.Fenced) {id workerId leaseToken : String} {leaseSeconds : ℚ}
    {now : DateTime} (fresh : ∀ run ∈ s.runs, run.lease.leaseToken ≠ leaseToken) :
    (s.claim id workerId leaseToken leaseSeconds now).Fenced := by
  unfold State.claim
  split
  · exact fenced
  · rename_i d found
    split
    · rename_i due
      have is := Store.delivery?_id found
      have claimable : d.status.claimable = true := by
        simp only [ProviderDelivery.due, Bool.and_eq_true] at due
        exact due.1
      have only : ∀ e ∈ s.store.deliveries, e.id = id → e = d := fun e member same =>
        fenced.sound.unique.same_id member (Store.delivery?_mem found) (same.trans is.symm)
      have unissued : ∀ e ∈ s.store.deliveries, e.leaseToken ≠ some leaseToken := by
        intro e member holds
        obtain ⟨run, there, same, -⟩ := fenced.issued e member leaseToken holds
        exact fresh run there same
      have opened : State.Fenced { s with runs := s.runs ++ [⟨⟨id, workerId, leaseToken⟩, .claimed⟩] } := by
        constructor
        · exact fenced.sound
        · rw [List.map_append, List.nodup_append]
          refine ⟨fenced.tokens, by simp, ?_⟩
          intro token member token' new same
          obtain ⟨run, there, rfl⟩ := List.mem_map.mp member
          simp only [List.map_cons, List.map_nil, List.mem_singleton] at new
          exact fresh run there (same.trans new)
        · intro e member token holds
          obtain ⟨run, there, issued⟩ := fenced.issued e member token holds
          exact ⟨run, List.mem_append_left _ there, issued⟩
        · intro run member
          obtain member | member := List.mem_append.mp member
          · exact fenced.phases run member
          · rw [List.mem_singleton] at member
            subst member
            intro e there owns
            exact absurd (ProviderDelivery.owns_iff.mp owns).2.2 (unissued e (Store.delivery?_mem there))
        · exact fenced.recoveries
        · exact fenced.apart
        · exact fenced.calls
      have turned : s.store.Turned (· = id) s.locked
          (s.store.updateDelivery id fun d => d.claimed workerId leaseToken leaseSeconds now)
          fun d => if d.id = id then d.claimed workerId leaseToken leaseSeconds now else d :=
        Store.Turned.claim fun e member same => by rw [only e member same]; exact due
      refine opened.commits turned (fenced.sound.updated turned rfl rfl) ?_ ?_ ?_ (opened.numbers fun key => rfl)
      · rintro id' held rfl
        have active := fenced.locked_active (Store.delivery?_mem found) (by rw [is]; exact held)
        rw [not_claimable_of_active active] at claimable
        cases claimable
      · intro e member token holds
        by_cases same : e.id = id
        · rw [if_pos same] at holds
          cases holds
          exact Or.inr ⟨_, List.mem_append_right _ (List.mem_singleton_self _), rfl, same.symm⟩
        · rw [if_neg same] at holds
          exact Or.inl holds
      · intro run member
        obtain member | member := List.mem_append.mp member
        · refine (fenced.phases run member).frame turned ?_ ?_
          · intro e there _ owns
            by_cases same : e.id = id
            · rw [if_pos same] at owns
              obtain ⟨-, -, token⟩ := ProviderDelivery.owns_iff.mp owns
              exact absurd (Option.some.inj token).symm (fresh run member)
            · rw [if_neg same]
              exact SameQueue.refl e
          · intro opened same
            obtain ⟨e, there, owns⟩ := fenced.holds member opened
            rw [same, found] at there
            cases there
            rw [not_claimable_of_active (ProviderDelivery.owns_iff.mp owns).1] at claimable
            cases claimable
        · rw [List.mem_singleton] at member
          subst member
          intro e there _
          rw [turned.delivery?, found] at there
          cases there
          dsimp only
          rw [if_pos is]
          rfl
    · exact fenced

theorem State.Fenced.heartbeat (fenced : s.Fenced) (run : Execution) (leaseSeconds : ℚ) (now : DateTime) :
    (s.heartbeat run leaseSeconds now).Fenced := by
  unfold State.heartbeat
  split
  · exact fenced
  · rename_i free
    split
    · have turned : s.store.Turned (fun _ => False) s.locked
          (s.store.updateDelivery run.lease.deliveryId fun d =>
            if d.owns run.lease then d.beaten leaseSeconds now else d)
          fun d => if d.id = run.lease.deliveryId then
            if d.owns run.lease then d.beaten leaseSeconds now else d else d :=
        Store.Turned.heartbeat _ free
      refine fenced.commits turned (fenced.sound.updated turned rfl rfl) (fun _ _ none => none) ?_ ?_
        (fenced.numbers fun key => rfl)
      · intro d member token holds
        obtain ⟨same, -⟩ := turned.untouched d member id
        rw [same.leaseToken] at holds
        exact Or.inl holds
      · exact fenced.unmoved turned (fun d _ none => none.elim) fun id none => none.elim
    · exact fenced

theorem State.Fenced.begin (fenced : s.Fenced) {e : Nat} {run : Execution} (at_ : s.runs[e]? = some run)
    (adapters : DeliveryChannel → Option String) (now : DateTime) : (s.begin e run adapters now).Fenced := by
  unfold State.begin
  split
  · rename_i claimed
    split
    · exact fenced.setPhase e .closed fun _ _ => trivial
    · rename_i begun begins
      refine fenced.setPhase e _ fun run' at' => ?_
      rw [at_] at at'
      cases at'
      have fits := fenced.phases run (List.mem_of_getElem? at_)
      obtain ⟨d, found, owns, shape⟩ := beginDelivery_some begins
      have db : begun.session.db = s.store := by
        obtain ⟨_, _, eq, -⟩ | ⟨_, _, _, eq, -⟩ := shape
        · rw [eq]
          rfl
        · rw [eq, Session.ending_db]
      simp only [Execution.Fits, claimed] at fits
      refine ⟨d, d, found, owns, fits d found owns, ?_, SameQueue.refl d, ?_⟩
      · rw [db, Store.delivery?_id found]
        exact found
      · rw [db]
        exact shape
  · exact fenced

theorem State.Fenced.finish (fenced : s.Fenced) {e : Nat} {run : Execution} (at_ : s.runs[e]? = some run)
    (outcome : AdapterOutcome) (base maximum : ℚ) (now : DateTime) :
    (s.finish e run outcome base maximum now).Fenced := by
  unfold State.finish
  split
  · rename_i number delivering
    split
    · exact fenced.setPhase e .closed fun _ _ => trivial
    · rename_i session alert finishes
      refine fenced.setPhase e _ fun run' at' => ?_
      rw [at_] at at'
      cases at'
      have fits := fenced.phases run (List.mem_of_getElem? at_)
      obtain ⟨d, attempt, new, ended, found, owns, there, eq, settles⟩ := finishDelivery_some finishes
      have db : session.db = s.store := by rw [eq, Session.ending_db]
      obtain ⟨member, key, is⟩ := Store.attempt?_spec there
      simp only [Execution.Fits, delivering] at fits
      obtain ⟨status, count⟩ := fits d found owns
      refine ⟨d, d, new, attempt, ended, now, found, owns, status, ?_, SameQueue.refl d, by rw [db]; exact eq,
        settles, ?_, Store.mem_attemptsOf.mpr ⟨member, key⟩, is.trans count.symm⟩
      · rw [db, Store.delivery?_id found]
        exact found
      · rw [db]
        exact Table.get_of_mem fenced.sound.unique.attempts member
  · exact fenced

/-! ## Commits of an execution -/

theorem State.setPhase_setPhase (s : State) (e : Nat) (phase phase' : Phase) (store : Store)
    (calls : List Call) (alerts : List Alert) :
    State.setPhase { s.setPhase e phase with store := store, calls := calls, alerts := alerts } e phase' =
      { s.setPhase e phase' with store := store, calls := calls, alerts := alerts } := by
  simp only [State.setPhase, List.modify_modify_eq]
  rfl

/-- Two executions hold one row only if they are one. -/
theorem State.Fenced.same_run (fenced : s.Fenced) {i j : Nat} {run other : Execution}
    (at_ : s.runs[i]? = some run) (there : s.runs[j]? = some other)
    (same : run.lease.leaseToken = other.lease.leaseToken) : i = j := by
  have bound := (List.getElem?_eq_some_iff.mp at_).1
  refine (List.getElem?_inj (by simpa using bound) fenced.tokens).mp ?_
  rw [List.getElem?_map, at_, List.getElem?_map, there, Option.map_some, Option.map_some, same]

/-- After the commit of an execution the others fit, and the execution itself
once it is over. -/
theorem State.Fenced.others (fenced : s.Fenced) {e : Nat} {run : Execution} (at_ : s.runs[e]? = some run)
    {d : ProviderDelivery} (found : s.store.delivery? run.lease.deliveryId = some d)
    (owns : d.owns run.lease = true) {store : Store} {f : ProviderDelivery → ProviderDelivery}
    {locked : List String} (turned : s.store.Turned (· = d.id) locked store f) :
    ∀ other ∈ (s.setPhase e .closed).runs, other.Fits store := by
  intro other member
  obtain ⟨i, there⟩ := List.mem_iff_getElem?.mp member
  obtain ⟨other', before, ⟨-, rfl⟩ | ⟨differs, rfl⟩⟩ := State.runs_setPhase there
  · trivial
  · have foreign : d.leaseToken ≠ some other.lease.leaseToken := by
      intro holds
      rw [(ProviderDelivery.owns_iff.mp owns).2.2] at holds
      exact differs (fenced.same_run at_ before (Option.some.inj holds))
    have member := Store.delivery?_mem found
    refine (fenced.phases other (List.mem_of_getElem? before)).frame turned ?_ ?_
    · intro d' there' _ owns'
      by_cases is : d'.id = d.id
      · obtain rfl := fenced.sound.unique.same_id there' member is
        have taken := not_claimable_of_active (ProviderDelivery.owns_iff.mp owns).1
        obtain kept | lost := (turned.turns d' member).token taken
        · rw [(ProviderDelivery.owns_iff.mp owns').2.2] at kept
          exact absurd kept.symm foreign
        · rw [owns_of_none lost] at owns'
          cases owns'
      · exact (turned.untouched d' there' is).1
    · intro opened is
      obtain ⟨d', there', owns'⟩ := fenced.holds (List.mem_of_getElem? before) opened
      have same_row : d' = d := fenced.sound.unique.same_id (Store.delivery?_mem there') member
        ((Store.delivery?_id there').trans is)
      subst same_row
      exact foreign (ProviderDelivery.owns_iff.mp owns').2.2

/-- The commit of an execution, once its phase is over. -/
theorem State.Fenced.commitOwn (fenced : s.Fenced) {e : Nat} {run : Execution} (at_ : s.runs[e]? = some run)
    (free : run.lease.deliveryId ∉ s.locked) {d : ProviderDelivery}
    (found : s.store.delivery? run.lease.deliveryId = some d) (owns : d.owns run.lease = true)
    {t : Session} {store : Store} (commits : t.Commits s.store store)
    (turned : s.store.Turned (· = d.id) s.locked store t.writeDelivery) (calls : List Call) (alerts : List Alert)
    (numbers : ∀ d ∈ s.store.deliveries,
      (calls.filter fun call => call.request.deliveryKey = d.deliveryKey).map Call.number =
        (store.attemptsOf d.deliveryKey).map RoutingAttempt.attemptNumber) :
    State.Fenced { s.setPhase e .closed with store := store, calls := calls, alerts := alerts } := by
  have closed : (s.setPhase e .closed).Fenced := fenced.setPhase e .closed fun _ _ => trivial
  refine closed.commits turned (fenced.sound.commits commits turned) ?_ ?_ (fenced.others at_ found owns turned)
    numbers
  · rintro id held rfl
    rw [Store.delivery?_id found] at held
    exact free held
  · intro d' member token holds
    by_cases is : d'.id = d.id
    · obtain rfl := fenced.sound.unique.same_id member (Store.delivery?_mem found) is
      obtain kept | lost := (turned.turns d' member).token
        (not_claimable_of_active (ProviderDelivery.owns_iff.mp owns).1)
      · exact Or.inl (kept ▸ holds)
      · rw [lost] at holds
        cases holds
    · rw [(turned.untouched d' member is).1.leaseToken] at holds
      exact Or.inl holds

theorem State.Fenced.commitBegun (fenced : s.Fenced) {e : Nat} {run : Execution}
    (at_ : s.runs[e]? = some run) (free : run.lease.deliveryId ∉ s.locked) {begun : Begun}
    (phase : run.phase = .beginning begun) : (s.commitBegun e run.lease begun).Fenced := by
  have fits := fenced.phases run (List.mem_of_getElem? at_)
  simp only [Execution.Fits, phase] at fits
  obtain ⟨d, loaded, found, owns, leased, read, loads, shape⟩ := fits
  have member := Store.delivery?_mem found
  unfold State.commitBegun
  split
  · exact fenced.setPhase e .closed fun _ _ => trivial
  · rename_i store committed
    have commits := Session.commits committed
    obtain starts | rejects := shape
    · have turned := starts.turned fenced.sound.unique s.locked member read loads leased commits
      have numbers := starts.numbers loads commits
      obtain ⟨request, attempt, eq, key, -⟩ := starts
      have requested : begun.request = some (request, loaded.attemptCount + 1) := by rw [eq]
      have only : begun.session.deliveries = [{ loaded with
          attemptCount := loaded.attemptCount + 1
          status := .delivering }] := by rw [eq]; rfl
      rw [requested]
      have closed := fenced.commitOwn at_ free found owns commits turned
        (s.calls ++ [⟨run.lease, request, loaded.attemptCount + 1⟩]) s.alerts fun d' there => by
          rw [numbers, List.filter_append, List.map_append, ← fenced.calls d' there]
          have of : request.deliveryKey = d.deliveryKey := key.trans loads.deliveryKey.symm
          congr 1
          by_cases same : d.deliveryKey = d'.deliveryKey <;> simp [same, of, loads.attemptCount]
      have next := closed.setPhase e (.delivering (loaded.attemptCount + 1)) fun run' at' => by
        obtain ⟨run'', before, ⟨-, rfl⟩ | ⟨differs, -⟩⟩ := State.runs_setPhase at'
        swap
        · exact absurd rfl differs
        rw [at_] at before
        cases before
        intro d' there _
        rw [turned.delivery?, found] at there
        cases there
        have written := Session.written_queue only read loads rfl
        exact ⟨written.status, written.attemptCount⟩
      rwa [State.setPhase_setPhase] at next
    · have turned := rejects.turned fenced.sound.unique s.locked member read loads leased commits
      obtain ⟨errorCode, summary, now, eq, requested⟩ := rejects
      rw [requested]
      refine fenced.commitOwn at_ free found owns commits turned s.calls _ (fenced.numbers fun key => ?_)
      exact commits.numbers (by rw [eq, Session.ending_newAttempt]) key

theorem State.Fenced.commitFinished (fenced : s.Fenced) {e : Nat} {run : Execution}
    (at_ : s.runs[e]? = some run) (free : run.lease.deliveryId ∉ s.locked) {session : Session}
    {alert : Option Alert} (phase : run.phase = .finishing session alert) :
    (s.commitFinished e session alert).Fenced := by
  have fits := fenced.phases run (List.mem_of_getElem? at_)
  simp only [Execution.Fits, phase] at fits
  obtain ⟨d, loaded, new, attempt, ended, now, found, owns, delivering, read, loads, shape, settles, row, of,
    newest⟩ := fits
  have member := Store.delivery?_mem found
  unfold State.commitFinished
  split
  · exact fenced.setPhase e .closed fun _ _ => trivial
  · rename_i store committed
    have commits := Session.commits committed
    have turned := settles.turned shape fenced.sound.unique s.locked (fenced.sound.kept d member) member read
      loads delivering row of newest commits
    refine fenced.commitOwn at_ free found owns commits turned s.calls _ (fenced.numbers fun key => ?_)
    exact commits.numbers (by rw [shape, Session.ending_newAttempt]) key

theorem State.Fenced.commit (fenced : s.Fenced) {e : Nat} {run : Execution} (at_ : s.runs[e]? = some run) :
    (s.commit e run).Fenced := by
  unfold State.commit
  split
  · exact fenced
  · rename_i free
    split
    · rename_i begun phase
      exact fenced.commitBegun at_ free phase
    · rename_i session alert phase
      exact fenced.commitFinished at_ free phase
    · exact fenced

/-! ## Recoveries and deletions -/

theorem State.Fenced.recover (fenced : s.Fenced) (staleAfterSeconds : ℚ) (now : DateTime) :
    (s.apply (.recover staleAfterSeconds now)).Fenced := by
  obtain ⟨rows, eq, perm⟩ := recoverStaleDeliveries_eq s.store s.locked staleAfterSeconds now
  have chosen : ∀ d ∈ rows, d ∈ s.store.deliveries ∧ d.status.active = true ∧ d.id ∉ s.locked := by
    intro d member
    obtain ⟨there, stale⟩ := List.mem_filter.mp (perm.mem_iff.mp member)
    simp only [ProviderDelivery.stale, Bool.and_eq_true, decide_eq_true_eq] at stale
    exact ⟨there, stale.1.1, stale.2⟩
  have new : (Session.recovering s.store rows now).Recovers s.store rows now := by
    constructor
    · rw [Session.recovering_db]
    · rw [(perm.map ProviderDelivery.id).nodup_iff]
      exact fenced.sound.unique.ids.sublist (List.filter_sublist.map _)
    · exact fun d member => (chosen d member).2.1
    · exact fun d member => (chosen d member).1
    · intro d member
      rw [Session.recovering_db]
      exact fenced.sound.unique.delivery? (chosen d member).1
    · intro d member
      rw [Session.recovering_db]
    · rw [Session.recovering_db]
      exact fenced.sound.unique.attempts
  have unlocked : ∀ id ∈ (Session.recovering s.store rows now).rows, id ∉ s.locked := by
    intro id row
    obtain ⟨d, member, rfl⟩ := new.mem_rows.mp row
    exact (chosen d member).2.2
  have split : ∀ (r : Nat) (t : Session),
      (s.recoveries ++ [some (Session.recovering s.store rows now)])[r]? = some (some t) →
      s.recoveries[r]? = some (some t) ∨
        r = s.recoveries.length ∧ t = Session.recovering s.store rows now := by
    intro r t found
    by_cases old : r < s.recoveries.length
    · rw [List.getElem?_append_left old] at found
      exact Or.inl found
    · rw [List.getElem?_append_right (Nat.le_of_not_lt old)] at found
      obtain ⟨bound, eq⟩ := List.getElem?_eq_some_iff.mp found
      simp only [List.length_singleton, Nat.lt_one_iff] at bound
      simp only [bound, List.getElem_cons_zero, Option.some.injEq] at eq
      exact Or.inr ⟨by omega, eq.symm⟩
  simp only [State.apply, eq]
  constructor
  · exact fenced.sound
  · exact fenced.tokens
  · exact fenced.issued
  · exact fenced.phases
  · intro r t found
    obtain old | ⟨-, rfl⟩ := split r t found
    · exact fenced.recoveries r t old
    · exact ⟨rows, now, new⟩
  · intro r r' t t' first second differs id row row'
    obtain old | ⟨at_, rfl⟩ := split r t first
    · obtain old' | ⟨-, rfl⟩ := split r' t' second
      · exact fenced.apart r r' t t' old old' differs id row row'
      · exact unlocked id row' (State.mem_locked.mpr ⟨r, t, old, row⟩)
    · obtain old' | ⟨at', rfl⟩ := split r' t' second
      · exact unlocked id row (State.mem_locked.mpr ⟨r', t', old', row'⟩)
      · exact differs (at_.trans at'.symm)
  · exact fenced.calls

theorem State.Fenced.commitRecovery (fenced : s.Fenced) {r : Nat} {t : Session}
    (found : s.recoveries[r]? = some (some t)) (undisturbed : ∀ id ∈ t.rows, ¬ s.OpenOn id) :
    (s.commitRecovery r t).Fenced := by
  have dropped := fenced.dropRecovery r
  unfold State.commitRecovery
  cases committed : t.commit s.store with
  | none => exact dropped
  | some store =>
    obtain ⟨rows, now, recovers⟩ := fenced.recoveries r t found
    have commits := Session.commits committed
    have turned := recovers.turned fenced.sound.unique fenced.sound.kept commits
      (State.locked { s with recoveries := s.recoveries.set r none })
    have lost : ∀ d ∈ s.store.deliveries, d.id ∈ t.rows → (t.writeDelivery d).leaseToken = none := by
      intro d member row
      obtain ⟨d', there, same⟩ := recovers.mem_rows.mp row
      obtain rfl := fenced.sound.unique.same_id (recovers.stored d' there) member same
      rw [Session.writeDelivery_of (recovers.held there) (recovers.read d' there),
        ProviderDelivery.flush_self (d'.recovered_id now)]
      unfold ProviderDelivery.recovered
      split <;> rfl
    refine dropped.commits turned (fenced.sound.commits commits turned) ?_ ?_ ?_ (fenced.numbers fun key => ?_)
    · intro id held row
      obtain ⟨r', t', found', row'⟩ := State.mem_locked.mp held
      obtain ⟨-, eq⟩ | ⟨differs, found'⟩ := Table.getElem?_set_cases found'
      · cases eq
      · exact fenced.apart r r' t t' found found' differs id row row'
    · intro d member token holds
      by_cases row : d.id ∈ t.rows
      · rw [lost d member row] at holds
        cases holds
      · rw [(turned.untouched d member row).1.leaseToken] at holds
        exact Or.inl holds
    · exact fenced.unmoved turned (fun d member row => Or.inr fun run _ => owns_of_none (lost d member row) _)
        undisturbed
    · exact commits.numbers recovers.newAttempt key

theorem State.Fenced.deleteLead (fenced : s.Fenced) {leadId : String} (role : LeadAccessRole)
    (now : DateTime) (undisturbed : ∀ d ∈ s.store.deliveriesOf leadId, ¬ s.OpenOn d.id) :
    (s.deleteLead leadId role now).Fenced := by
  unfold State.deleteLead
  split
  · exact fenced
  · rename_i unlocked
    have unlocked : ∀ d ∈ s.store.deliveries, d.leadId = leadId → d.id ∉ s.locked := by
      intro d member of held
      refine unlocked (List.any_eq_true.mpr ⟨d, ?_, by simpa using held⟩)
      simp [Store.deliveriesOf, member, of]
    unfold Leads.deleteLead
    split
    · exact fenced
    · split
      · exact fenced
      · rename_i lead found
        have is := Store.lead?_id found
        split
        · exact fenced
        · rename_i store erased
          rw [is] at erased
          have turned : Store.Turned _ s.locked s.store store _ :=
            Store.Turned.erase erased fun d member of => unlocked d member (List.mem_singleton.mp of)
          have attempts := (Store.anonymize_rows erased).2
          refine fenced.commits turned (fenced.sound.erase erased) ?_ ?_ ?_ (fenced.numbers fun key => ?_)
          · rintro id held ⟨d, member, rfl, of⟩
            exact unlocked d member (List.mem_singleton.mp of) held
          · intro d member token holds
            by_cases of : d.leadId ∈ [leadId]
            · rw [if_pos of] at holds
              obtain same | lost := d.erased_place now
              · exact Or.inl (same.leaseToken ▸ holds)
              · rw [lost] at holds
                cases holds
            · rw [if_neg of] at holds
              exact Or.inl holds
          · refine fenced.unmoved turned ?_ ?_
            · intro d member _
              split
              · obtain same | lost := d.erased_place now
                · exact Or.inl same
                · exact Or.inr fun run _ => owns_of_none lost _
              · exact Or.inl (SameQueue.refl d)
            · rintro id ⟨d, member, rfl, of⟩
              refine undisturbed d ?_
              simp [Store.deliveriesOf, member, List.mem_singleton.mp of]
          · simp only [Store.orElse, Store.attemptsOf, attempts]

/-- Every step that draws a fresh token and disturbs no open transaction. -/
theorem State.Fenced.apply (fenced : s.Fenced) (op : Op) (fresh : s.Unused op.token)
    (undisturbed : s.Undisturbed op) : (s.apply op).Fenced := by
  cases op with
  | claim id workerId leaseToken leaseSeconds now => exact fenced.claim (fresh leaseToken rfl)
  | heartbeat e leaseSeconds now =>
    simp only [State.apply]
    split
    · exact fenced
    · exact fenced.heartbeat _ leaseSeconds now
  | begin e adapters now =>
    simp only [State.apply]
    split
    · exact fenced
    · rename_i run at_
      exact fenced.begin at_ adapters now
  | finish e outcome base maximum now =>
    simp only [State.apply]
    split
    · exact fenced
    · rename_i run at_
      exact fenced.finish at_ outcome base maximum now
  | commit e =>
    simp only [State.apply]
    split
    · exact fenced
    · rename_i run at_
      exact fenced.commit at_
  | crash e => exact fenced.setPhase e .closed fun _ _ => trivial
  | recover staleAfterSeconds now => exact fenced.recover staleAfterSeconds now
  | commitRecovery r =>
    simp only [State.apply]
    split
    · rename_i session found
      exact fenced.commitRecovery found (undisturbed session found)
    · exact fenced
  | crashRecovery r => exact fenced.dropRecovery r
  | deleteLead leadId role now => exact fenced.deleteLead role now undisturbed
  | assign assignments =>
    have turned : s.store.Turned (fun _ => False) s.locked { s.store with assignments := assignments } id :=
      Store.Turned.refl rfl rfl
    exact fenced.commits turned (fenced.sound.updated turned rfl rfl) (fun _ _ none => none)
      (fun d _ token holds => Or.inl holds)
      (fenced.unmoved turned (fun d _ none => none.elim) fun id none => none.elim)
      (fenced.numbers fun key => rfl)

end Steps

end RankRent.Leads
