import RankRent.Leads.Steps

/-!
# The delivery queue, transaction by transaction

With every transaction atomic nothing comes between a read and its commit, so
the invariant of fenced runs bounds the attempts of a delivery.
-/

namespace RankRent.Leads

/-- No transaction is open. -/
structure State.Idle (s : State) : Prop where
  runs : ∀ run ∈ s.runs, run.phase.session? = none
  recoveries : ∀ t ∈ s.recoveries, t = none

section Idle
variable {s : State}

theorem State.Idle.not_open (idle : s.Idle) (id : String) : ¬ s.OpenOn id := by
  rintro ⟨run, member, opened, -⟩
  rw [idle.runs run member] at opened
  cases opened

theorem State.Idle.unlocked (idle : s.Idle) (id : String) : id ∉ s.locked := by
  intro held
  obtain ⟨r, t, found, -⟩ := State.mem_locked.mp held
  cases idle.recoveries _ (List.mem_of_getElem? found)

/-- The only execution with an open transaction. -/
def State.OnlyOpen (s : State) (e : Nat) : Prop :=
  ∀ (i : Nat) run, s.runs[i]? = some run → i ≠ e → run.phase.session? = none

theorem State.Idle.setPhase (idle : s.Idle) (e : Nat) (phase : Phase) : (s.setPhase e phase).OnlyOpen e := by
  intro i run found differs
  obtain ⟨run', before, ⟨same, -⟩ | ⟨-, rfl⟩⟩ := State.runs_setPhase found
  · exact absurd same.symm differs
  · exact idle.runs run (List.mem_of_getElem? before)

/-- An execution whose transaction ends leaves none open. -/
theorem State.OnlyOpen.closed {e : Nat} (only : s.OnlyOpen e) (none : ∀ t ∈ s.recoveries, t = none)
    (phase : Phase) (ends : phase.session? = Option.none) {store : Store} {calls : List Call}
    {alerts : List Alert} :
    State.Idle { s.setPhase e phase with store := store, calls := calls, alerts := alerts } where
  runs run member := by
    obtain ⟨i, found⟩ := List.mem_iff_getElem?.mp member
    obtain ⟨run', before, ⟨-, rfl⟩ | ⟨differs, rfl⟩⟩ := State.runs_setPhase found
    · exact ends
    · exact only i run before (Ne.symm differs)
  recoveries := none

/-- A commit ends the transaction of its execution. -/
theorem State.OnlyOpen.commit {e : Nat} (only : s.OnlyOpen e) (none : ∀ t ∈ s.recoveries, t = none) :
    (s.apply (.commit e)).Idle := by
  have unlocked : ∀ id, id ∉ s.locked := by
    intro id held
    obtain ⟨r, t, found, -⟩ := State.mem_locked.mp held
    cases none _ (List.mem_of_getElem? found)
  have still : (∀ run, s.runs[e]? = some run → run.phase.session? = Option.none) → s.Idle := by
    intro ends
    refine ⟨fun run member => ?_, none⟩
    obtain ⟨i, found⟩ := List.mem_iff_getElem?.mp member
    by_cases same : i = e
    · exact ends run (same ▸ found)
    · exact only i run found same
  simp only [State.apply]
  split
  · rename_i missing
    exact still fun run found => by rw [missing] at found; cases found
  · rename_i run at_
    unfold State.commit
    rw [if_neg (unlocked _)]
    split
    · unfold State.commitBegun
      split
      · exact only.closed none .closed rfl
      · split
        · exact only.closed none (.delivering _) rfl
        · exact only.closed none .closed rfl
    · unfold State.commitFinished
      split
      · exact only.closed none .closed rfl
      · exact only.closed none .closed rfl
    · rename_i begun finishing
      refine still fun run' at' => ?_
      rw [at_] at at'
      cases at'
      cases phase : run.phase with
      | beginning b => exact absurd phase (begun b)
      | finishing t alert => exact absurd phase (finishing t alert)
      | claimed => rfl
      | delivering number => rfl
      | closed => rfl

/-- A read leaves at most its own transaction open. -/
theorem State.Idle.begin (idle : s.Idle) (e : Nat) (adapters : DeliveryChannel → Option String)
    (now : DateTime) : (s.apply (.begin e adapters now)).OnlyOpen e ∧
      (s.apply (.begin e adapters now)).recoveries = s.recoveries ∧
      (s.apply (.begin e adapters now)).store = s.store := by
  have same : s.OnlyOpen e := fun i run found _ => idle.runs run (List.mem_of_getElem? found)
  simp only [State.apply]
  split
  · exact ⟨same, rfl, rfl⟩
  · unfold State.begin
    split
    · split
      · exact ⟨idle.setPhase e _, rfl, rfl⟩
      · exact ⟨idle.setPhase e _, rfl, rfl⟩
    · exact ⟨same, rfl, rfl⟩

@[inherit_doc State.Idle.begin]
theorem State.Idle.finish (idle : s.Idle) (e : Nat) (outcome : AdapterOutcome) (base maximum : ℚ)
    (now : DateTime) : (s.apply (.finish e outcome base maximum now)).OnlyOpen e ∧
      (s.apply (.finish e outcome base maximum now)).recoveries = s.recoveries ∧
      (s.apply (.finish e outcome base maximum now)).store = s.store := by
  have same : s.OnlyOpen e := fun i run found _ => idle.runs run (List.mem_of_getElem? found)
  simp only [State.apply]
  split
  · exact ⟨same, rfl, rfl⟩
  · unfold State.finish
    split
    · split
      · exact ⟨idle.setPhase e _, rfl, rfl⟩
      · exact ⟨idle.setPhase e _, rfl, rfl⟩
    · exact ⟨same, rfl, rfl⟩

/-- A transaction leaves none open. -/
theorem State.Idle.perform (idle : s.Idle) (transaction : Transaction) : (s.perform transaction).Idle := by
  cases transaction with
  | claim id workerId leaseToken leaseSeconds now =>
    change (s.claim id workerId leaseToken leaseSeconds now).Idle
    unfold State.claim
    split
    · exact idle
    · split
      · refine ⟨fun run member => ?_, idle.recoveries⟩
        obtain member | member := List.mem_append.mp member
        · exact idle.runs run member
        · rw [List.mem_singleton] at member
          subst member
          rfl
      · exact idle
  | heartbeat e leaseSeconds now =>
    change (s.apply (.heartbeat e leaseSeconds now)).Idle
    simp only [State.apply]
    split
    · exact idle
    · unfold State.heartbeat
      split
      · exact idle
      · split
        · exact ⟨idle.runs, idle.recoveries⟩
        · exact idle
  | begin e adapters now =>
    obtain ⟨only, recoveries, -⟩ := idle.begin e adapters now
    exact only.commit (by rw [recoveries]; exact idle.recoveries)
  | finish e outcome base maximum now =>
    obtain ⟨only, recoveries, -⟩ := idle.finish e outcome base maximum now
    exact only.commit (by rw [recoveries]; exact idle.recoveries)
  | crash e =>
    have only : s.OnlyOpen e := fun i run found _ => idle.runs run (List.mem_of_getElem? found)
    exact only.closed idle.recoveries .closed rfl
  | recover staleAfterSeconds now =>
    let session := recoverStaleDeliveries s.store s.locked staleAfterSeconds now
    change (State.apply { s with recoveries := s.recoveries ++ [some session] }
      (.commitRecovery s.recoveries.length)).Idle
    simp only [State.apply, List.getElem?_concat_length]
    refine ⟨idle.runs, fun t member => ?_⟩
    simp only [State.commitRecovery, List.set_append_right _ _ (Nat.le_refl _), Nat.sub_self,
      List.set_cons_zero] at member
    obtain member | member := List.mem_append.mp member
    · exact idle.recoveries t member
    · exact List.mem_singleton.mp member
  | deleteLead leadId role now =>
    change (s.deleteLead leadId role now).Idle
    unfold State.deleteLead
    split
    · exact idle
    · exact ⟨idle.runs, idle.recoveries⟩
  | assign assignments => exact ⟨idle.runs, idle.recoveries⟩

theorem State.Fenced.perform (fenced : s.Fenced) (idle : s.Idle) {transaction : Transaction}
    (fresh : s.Unused transaction.token) : (s.perform transaction).Fenced := by
  cases transaction with
  | claim id workerId leaseToken leaseSeconds now => exact fenced.claim (fresh leaseToken rfl)
  | heartbeat e leaseSeconds now => exact fenced.apply (.heartbeat e leaseSeconds now) (fun _ none => by cases none) trivial
  | begin e adapters now =>
    have begun := fenced.apply (.begin e adapters now) (fun _ none => by cases none) trivial
    exact begun.apply (.commit e) (fun _ none => by cases none) trivial
  | finish e outcome base maximum now =>
    have finishing := fenced.apply (.finish e outcome base maximum now) (fun _ none => by cases none) trivial
    exact finishing.apply (.commit e) (fun _ none => by cases none) trivial
  | crash e => exact fenced.apply (.crash e) (fun _ none => by cases none) trivial
  | recover staleAfterSeconds now =>
    have recovering := fenced.recover staleAfterSeconds now
    refine recovering.apply (.commitRecovery s.recoveries.length) (fun _ none => by cases none) fun t _ id _ => ?_
    exact idle.not_open id
  | deleteLead leadId role now => exact fenced.deleteLead role now fun d _ => idle.not_open d.id
  | assign assignments => exact fenced.apply (.assign assignments) (fun _ none => by cases none) trivial

end Idle

/-! ## Calls of the adapter -/

section Calls
variable {s : State}

theorem State.apply_calls (s : State) (op : Op) (reads : ∀ e, op ≠ .commit e) :
    (s.apply op).calls = s.calls := by
  cases op with
  | claim id workerId leaseToken leaseSeconds now =>
    simp only [State.apply, State.claim]
    repeat' split
    all_goals rfl
  | heartbeat e leaseSeconds now =>
    simp only [State.apply, State.heartbeat]
    repeat' split
    all_goals rfl
  | begin e adapters now =>
    simp only [State.apply, State.begin]
    repeat' split
    all_goals rfl
  | finish e outcome base maximum now =>
    simp only [State.apply, State.finish]
    repeat' split
    all_goals rfl
  | commit e => exact absurd rfl (reads e)
  | crash e => rfl
  | recover staleAfterSeconds now => rfl
  | commitRecovery r =>
    simp only [State.apply]
    split <;> rfl
  | crashRecovery r => rfl
  | deleteLead leadId role now =>
    simp only [State.apply, State.deleteLead]
    split <;> rfl
  | assign assignments => rfl

/-- The commit of a first block calls the adapter for a leased delivery. -/
theorem State.Fenced.call (fenced : s.Fenced) (e : Nat) : (s.apply (.commit e)).calls = s.calls ∨
    ∃ call d, (s.apply (.commit e)).calls = s.calls ++ [call] ∧ d ∈ s.store.deliveries ∧
      d.deliveryKey = call.request.deliveryKey ∧ d.status = .leased := by
  simp only [State.apply]
  split
  · exact Or.inl rfl
  · rename_i run at_
    have fits := fenced.phases run (List.mem_of_getElem? at_)
    unfold State.commit
    split
    · exact Or.inl rfl
    · split
      · rename_i begun phase
        simp only [Execution.Fits, phase] at fits
        obtain ⟨d, loaded, found, owns, leased, read, loads, shape⟩ := fits
        unfold State.commitBegun
        split
        · exact Or.inl rfl
        · split
          · rename_i request number requested
            refine Or.inr ⟨_, d, rfl, Store.delivery?_mem found, ?_, leased⟩
            obtain ⟨request', attempt, eq, key, -⟩ | ⟨_, _, _, -, none⟩ := shape
            · rw [eq] at requested
              cases requested
              exact loads.deliveryKey.trans key.symm
            · rw [none] at requested
              cases requested
          · exact Or.inl rfl
      · unfold State.commitFinished
        split <;> exact Or.inl rfl
      · exact Or.inl rfl

theorem State.Fenced.calls_le (fenced : s.Fenced) {d : ProviderDelivery} (member : d ∈ s.store.deliveries) :
    (s.callsOf d.deliveryKey).length = d.attemptCount := by
  have kept := fenced.sound.kept d member
  rw [kept.counted, ← List.length_map Call.number, fenced.calls d member, List.length_map]

end Calls

/-- The queue delivers at most as often as allowed, never a delivery that is
over, and counts what it does. -/
theorem lead_delivery_queue {start s : State} (queued : start.Queued)
    (run : Runs.Reaches (fun s transaction => s.Unused transaction.token)
      (fun s transaction t => t = s.perform transaction) start s) :
    (∀ d ∈ s.store.deliveries,
      (s.callsOf d.deliveryKey).length ≤ d.maxAttempts ∧
      d.attemptCount = (s.store.attemptsOf d.deliveryKey).length ∧
      (d.status.claimable = true → d.attemptCount < d.maxAttempts) ∧
      (d.status ≠ .cancelled →
        ((s.store.attemptsOf d.deliveryKey).filter fun a => a.status = .running).length ≤ 1)) ∧
    ∀ transaction, (s.perform transaction).calls = s.calls ∨
      ∃ call d, (s.perform transaction).calls = s.calls ++ [call] ∧ d ∈ s.store.deliveries ∧
        d.deliveryKey = call.request.deliveryKey ∧ d.status = .leased := by
  have start_idle : start.Idle := by
    constructor
    · rw [queued.runs]
      intro run member
      cases member
    · rw [queued.recoveries]
      intro t member
      cases member
  obtain ⟨fenced, idle⟩ : s.Fenced ∧ s.Idle := by
    refine run.invariant (I := fun s => s.Fenced ∧ s.Idle) ?_ ⟨queued.fenced, start_idle⟩
    rintro s transaction t ⟨fenced, idle⟩ fresh rfl
    exact ⟨fenced.perform idle fresh, idle.perform transaction⟩
  constructor
  · intro d member
    have kept := fenced.sound.kept d member
    refine ⟨by rw [fenced.calls_le member]; exact kept.within, kept.counted, ?_, fun _ => kept.one_running⟩
    intro claimable
    refine (kept.waiting ?_).1
    revert claimable
    cases d.status <;> decide
  · intro transaction
    cases transaction with
    | begin e adapters now =>
      obtain ⟨-, -, store⟩ := idle.begin e adapters now
      have next := (fenced.apply (.begin e adapters now) (fun _ none => by cases none) trivial).call e
      rw [s.apply_calls (.begin e adapters now) (fun _ same => by cases same), store] at next
      exact next
    | finish e outcome base maximum now =>
      obtain ⟨-, -, store⟩ := idle.finish e outcome base maximum now
      have next := (fenced.apply (.finish e outcome base maximum now) (fun _ none => by cases none) trivial).call e
      rw [s.apply_calls (.finish e outcome base maximum now) (fun _ same => by cases same), store] at next
      exact next
    | recover staleAfterSeconds now =>
      have read := s.apply_calls (.recover staleAfterSeconds now) fun _ same => by cases same
      have committed := (s.apply (.recover staleAfterSeconds now)).apply_calls
        (.commitRecovery s.recoveries.length) fun _ same => by cases same
      exact Or.inl (committed.trans read)
    | claim id workerId leaseToken leaseSeconds now =>
      exact Or.inl (s.apply_calls (.claim id workerId leaseToken leaseSeconds now) fun _ same => by cases same)
    | heartbeat e leaseSeconds now =>
      exact Or.inl (s.apply_calls (.heartbeat e leaseSeconds now) fun _ same => by cases same)
    | crash e => exact Or.inl (s.apply_calls (.crash e) fun _ same => by cases same)
    | deleteLead leadId role now =>
      exact Or.inl (s.apply_calls (.deleteLead leadId role now) fun _ same => by cases same)
    | assign assignments => exact Or.inl (s.apply_calls (.assign assignments) fun _ same => by cases same)

/-! ## A retried delivery -/

namespace Sample

def assignment : ProviderAssignment where
  id := 7
  propertyId := "property-1"
  status := .active
  destinationPhone := some "+13145550111"
  destinationEmail := some "dispatch@provider.test"

def lead : Lead where
  id := "lead-1"
  propertyId := "property-1"
  opportunityId := 1
  providerAssignmentId := some 7
  channel := "form"
  status := .routing
  name := "Ada Lovelace"
  email := some "ada@example.com"
  phone := none
  postalCode := none
  message := none
  idempotencyKey := "lead-request-0001"
  dedupeHash := "dedupe"
  subjectHash := "subject"
  receivedAt := 0
  piiDeletedAt := none
  retentionExpiresAt := 31536000

/-- A delivery as `submit` adds it. -/
def delivery (id : String) (channel : DeliveryChannel) (destinationReference : String) :
    ProviderDelivery where
  id := id
  leadId := "lead-1"
  providerAssignmentId := 7
  deliveryKey := "lead-1:7:" ++ channel.value
  channel := channel
  destinationReference := destinationReference
  adapterName := "fixture"
  providerMessageId := none
  status := .pending
  attemptCount := 0
  maxAttempts := 3
  nextAttemptAt := some 0
  workerId := none
  leaseToken := none
  claimedAt := none
  heartbeatAt := none
  leaseExpiresAt := none
  lastErrorCode := none
  lastErrorSummary := none
  deliveredAt := none
  completedAt := none

def store (deliveries : List ProviderDelivery) : Store where
  profiles := [⟨"property-1", 1, true⟩]
  assignments := [assignment]
  leads := [lead]
  deliveries := deliveries
  attempts := []
  events := []
  consents := []
  spam := []
  outcomes := []
  analytics := []

def start (deliveries : List ProviderDelivery) : State := ⟨store deliveries, [], [], [], []⟩

def byEmail : ProviderDelivery := delivery "delivery-1" .email "d***@provider.test"

def byPhone : ProviderDelivery := delivery "delivery-2" .phone "***0111"

def adapters : DeliveryChannel → Option String := fun _ => some "fixture"

/-- An attempt that fails, and the claim and begin of the next one. -/
def retry : List Transaction := [
  .claim "delivery-1" "worker-1" "token-1" 30 0,
  .begin 0 adapters 1,
  .finish 0 .retryableError 30 3600 2,
  .claim "delivery-1" "worker-2" "token-2" 30 40,
  .begin 1 adapters 41]

theorem queued : (start [byEmail]).Queued := by
  constructor <;> simp [start, store, byEmail, delivery]

end Sample

theorem retried_delivery_counted :
    ∃ d ∈ (Sample.retry.foldl State.perform (Sample.start [Sample.byEmail])).store.deliveries,
      ((Sample.retry.foldl State.perform (Sample.start [Sample.byEmail])).callsOf d.deliveryKey).length ≤
        d.maxAttempts := by
  have allowed : Runs.Allowed (fun s transaction => s.Unused transaction.token) State.perform
      (Sample.start [Sample.byEmail]) Sample.retry := by decide +kernel
  have counted := (lead_delivery_queue Sample.queued allowed.reaches).1
  have some : (Sample.retry.foldl State.perform (Sample.start [Sample.byEmail])).store.deliveries ≠ [] := by
    decide +kernel
  obtain ⟨d, member⟩ := List.exists_mem_of_ne_nil _ some
  exact ⟨d, member, (counted d member).1⟩

example : (Sample.retry.foldl State.perform (Sample.start [Sample.byEmail])).calls.length = 2 := by decide +kernel

end RankRent.Leads
