import RankRent.Leads.Privacy
import RankRent.Leads.Worker
import RankRent.Library.Runs

/-!
# Workers over the delivery queue

Any number of workers claiming, delivering and recovering, each commit a step of
its own. A transaction of `run_delivery_by_id` and one of
`recover_stale_deliveries` read in one step and commit in another; the rows a
recovery selects stay locked in between, and a commit that would write a locked
row waits.
-/

namespace RankRent.Leads

inductive Phase
  /-- Claimed; `run_delivery_by_id` has read nothing. -/
  | claimed
  /-- The first block read its rows. -/
  | beginning (begun : Begun)
  /-- `adapter.deliver` was called for this attempt. -/
  | delivering (number : Nat)
  /-- The last block read its rows. -/
  | finishing (session : Session) (alert : Option Alert)
  | closed

/-- One lease, and how far `run_delivery_by_id` is with it. -/
structure Execution where
  lease : DeliveryLease
  phase : Phase

/-- A call of `adapter.deliver`. -/
structure Call where
  lease : DeliveryLease
  request : DeliveryRequest
  number : Nat
  deriving DecidableEq

structure State where
  store : Store
  runs : List Execution
  /-- The recoveries that were begun, and what the open ones hold. -/
  recoveries : List (Option Session)
  calls : List Call
  alerts : List Alert

/-- The transaction an execution has open. -/
def Phase.session? : Phase → Option Session
  | .beginning begun => some begun.session
  | .finishing session _ => some session
  | _ => none

/-- The rows a recovery locks. -/
def Session.rows (t : Session) : List String := t.deliveries.map ProviderDelivery.id

/-- The rows the open recoveries lock. -/
def State.locked (s : State) : List String :=
  s.recoveries.flatMap fun t => (t.map Session.rows).getD []

def State.setPhase (s : State) (e : Nat) (phase : Phase) : State :=
  { s with runs := s.runs.modify e fun run => { run with phase := phase } }

/-- One commit, or one read of a transaction. The number names the execution or
the recovery. -/
inductive Op
  | claim (id workerId leaseToken : String) (leaseSeconds : ℚ) (now : DateTime)
  | heartbeat (e : Nat) (leaseSeconds : ℚ) (now : DateTime)
  | begin (e : Nat) (adapters : DeliveryChannel → Option String) (now : DateTime)
  | finish (e : Nat) (outcome : AdapterOutcome) (retryBaseSeconds retryMaxSeconds : ℚ)
      (now : DateTime)
  | commit (e : Nat)
  | crash (e : Nat)
  | recover (staleAfterSeconds : ℚ) (now : DateTime)
  | commitRecovery (r : Nat)
  | crashRecovery (r : Nat)
  | deleteLead (leadId : String) (role : LeadAccessRole) (now : DateTime)
  /-- A transaction of the provider operations. -/
  | assign (assignments : List ProviderAssignment)

namespace State

variable (s : State)

def claim (id workerId leaseToken : String) (leaseSeconds : ℚ) (now : DateTime) : State :=
  match s.store.delivery? id with
  | none => s
  | some delivery =>
    if delivery.due now then
      { s with
        store := s.store.updateDelivery id fun d => d.claimed workerId leaseToken leaseSeconds now
        runs := s.runs ++ [⟨⟨id, workerId, leaseToken⟩, .claimed⟩] }
    else s

def heartbeat (run : Execution) (leaseSeconds : ℚ) (now : DateTime) : State :=
  if run.lease.deliveryId ∈ s.locked then s
  else
    match run.phase with
    | .delivering _ =>
      { s with
        store := s.store.updateDelivery run.lease.deliveryId fun d =>
          if d.owns run.lease then d.beaten leaseSeconds now else d }
    | _ => s

def begin (e : Nat) (run : Execution) (adapters : DeliveryChannel → Option String)
    (now : DateTime) : State :=
  match run.phase with
  | .claimed =>
    match beginDelivery s.store run.lease adapters now with
    | none => s.setPhase e .closed
    | some begun => s.setPhase e (.beginning begun)
  | _ => s

def finish (e : Nat) (run : Execution) (outcome : AdapterOutcome)
    (retryBaseSeconds retryMaxSeconds : ℚ) (now : DateTime) : State :=
  match run.phase with
  | .delivering number =>
    match finishDelivery s.store run.lease number outcome retryBaseSeconds retryMaxSeconds now with
    | none => s.setPhase e .closed
    | some (session, alert) => s.setPhase e (.finishing session alert)
  | _ => s

/-- The end of the first block, and what follows it: the call of the adapter,
or an alert. -/
def commitBegun (e : Nat) (lease : DeliveryLease) (begun : Begun) : State :=
  match begun.session.commit s.store with
  | none => s.setPhase e .closed
  | some store =>
    match begun.request with
    | some (request, number) =>
      { s.setPhase e (.delivering number) with
        store := store
        calls := s.calls ++ [⟨lease, request, number⟩] }
    | none =>
      { s.setPhase e .closed with
        store := store
        alerts := s.alerts ++ begun.alert.toList }

def commitFinished (e : Nat) (session : Session) (alert : Option Alert) : State :=
  match session.commit s.store with
  | none => s.setPhase e .closed
  | some store =>
    { s.setPhase e .closed with
      store := store
      alerts := s.alerts ++ alert.toList }

def commit (e : Nat) (run : Execution) : State :=
  if run.lease.deliveryId ∈ s.locked then s
  else
    match run.phase with
    | .beginning begun => s.commitBegun e run.lease begun
    | .finishing session alert => s.commitFinished e session alert
    | _ => s

def commitRecovery (r : Nat) (session : Session) : State :=
  { s with
    store := (session.commit s.store).getD s.store
    recoveries := s.recoveries.set r none }

/-- `delete_lead` waits while a row it would write is locked. -/
def deleteLead (leadId : String) (role : LeadAccessRole) (now : DateTime) : State :=
  if (s.store.deliveriesOf leadId).any fun d => d.id ∈ s.locked then s
  else { s with store := s.store.orElse (Leads.deleteLead s.store leadId role now) }

def apply : Op → State
  | .claim id workerId leaseToken leaseSeconds now => s.claim id workerId leaseToken leaseSeconds now
  | .heartbeat e leaseSeconds now =>
    match s.runs[e]? with
    | none => s
    | some run => s.heartbeat run leaseSeconds now
  | .begin e adapters now =>
    match s.runs[e]? with
    | none => s
    | some run => s.begin e run adapters now
  | .finish e outcome retryBaseSeconds retryMaxSeconds now =>
    match s.runs[e]? with
    | none => s
    | some run => s.finish e run outcome retryBaseSeconds retryMaxSeconds now
  | .commit e =>
    match s.runs[e]? with
    | none => s
    | some run => s.commit e run
  | .crash e => s.setPhase e .closed
  | .recover staleAfterSeconds now =>
    { s with recoveries :=
        s.recoveries ++ [some (recoverStaleDeliveries s.store s.locked staleAfterSeconds now)] }
  | .commitRecovery r =>
    match s.recoveries[r]? with
    | some (some session) => s.commitRecovery r session
    | _ => s
  | .crashRecovery r => { s with recoveries := s.recoveries.set r none }
  | .deleteLead leadId role now => s.deleteLead leadId role now
  | .assign assignments => { s with store := { s.store with assignments := assignments } }

end State

/-- The execution an event belongs to. -/
def Op.execution : Op → Option Nat
  | .heartbeat e _ _ | .begin e _ _ | .finish e _ _ _ _ | .commit e | .crash e => some e
  | _ => none

/-! ## Runs of whole transactions -/

/-- One transaction, committed as it is read. -/
inductive Transaction
  | claim (id workerId leaseToken : String) (leaseSeconds : ℚ) (now : DateTime)
  | heartbeat (e : Nat) (leaseSeconds : ℚ) (now : DateTime)
  | begin (e : Nat) (adapters : DeliveryChannel → Option String) (now : DateTime)
  | finish (e : Nat) (outcome : AdapterOutcome) (retryBaseSeconds retryMaxSeconds : ℚ)
      (now : DateTime)
  | crash (e : Nat)
  | recover (staleAfterSeconds : ℚ) (now : DateTime)
  | deleteLead (leadId : String) (role : LeadAccessRole) (now : DateTime)
  | assign (assignments : List ProviderAssignment)

/-- A transaction as its read and its commit. -/
def Transaction.ops (s : State) : Transaction → List Op
  | .claim id workerId leaseToken leaseSeconds now => [.claim id workerId leaseToken leaseSeconds now]
  | .heartbeat e leaseSeconds now => [.heartbeat e leaseSeconds now]
  | .begin e adapters now => [.begin e adapters now, .commit e]
  | .finish e outcome retryBaseSeconds retryMaxSeconds now =>
    [.finish e outcome retryBaseSeconds retryMaxSeconds now, .commit e]
  | .crash e => [.crash e]
  | .recover staleAfterSeconds now =>
    [.recover staleAfterSeconds now, .commitRecovery s.recoveries.length]
  | .deleteLead leadId role now => [.deleteLead leadId role now]
  | .assign assignments => [.assign assignments]

def State.perform (s : State) (transaction : Transaction) : State :=
  (transaction.ops s).foldl State.apply s

/-! ## Starts and conditions -/

/-- Deliveries as `submit` leaves them, and no worker. -/
structure State.Queued (s : State) : Prop where
  ids : (s.store.deliveries.map ProviderDelivery.id).Nodup
  keys : (s.store.deliveries.map ProviderDelivery.deliveryKey).Nodup
  leads : (s.store.leads.map Lead.id).Nodup
  attempts : (s.store.attempts.map RoutingAttempt.id).Nodup
  pending : ∀ d ∈ s.store.deliveries, d.status = .pending ∧ d.attemptCount = 0 ∧ 1 ≤ d.maxAttempts ∧
    d.workerId = none ∧ d.leaseToken = none
  unattempted : ∀ d ∈ s.store.deliveries, ∀ a ∈ s.store.attempts, a.deliveryKey ≠ d.deliveryKey
  runs : s.runs = []
  recoveries : s.recoveries = []
  calls : s.calls = []

/-- The token a claim draws. -/
def Op.token : Op → Option String
  | .claim _ _ leaseToken _ _ => some leaseToken
  | _ => none

@[inherit_doc Op.token]
def Transaction.token : Transaction → Option String
  | .claim _ _ leaseToken _ _ => some leaseToken
  | _ => none

/-- `uuid.uuid4().hex` gives every lease a token of its own. -/
def State.Unused (s : State) (token : Option String) : Prop :=
  ∀ leaseToken ∈ token, ∀ run ∈ s.runs, run.lease.leaseToken ≠ leaseToken

instance (s : State) (token : Option String) : Decidable (s.Unused token) :=
  decidable_of_iff (∀ leaseToken ∈ token, ∀ run ∈ s.runs, run.lease.leaseToken ≠ leaseToken) Iff.rfl

/-- A transaction of `run_delivery_by_id` is open on the delivery. -/
def State.OpenOn (s : State) (deliveryId : String) : Prop :=
  ∃ run ∈ s.runs, run.phase.session?.isSome = true ∧ run.lease.deliveryId = deliveryId

/-- No recovery takes a row, and no deletion a lead, between the read and the
commit of a transaction of `run_delivery_by_id` on it. -/
def State.Undisturbed (s : State) : Op → Prop
  | .commitRecovery r => ∀ t, s.recoveries[r]? = some (some t) → ∀ id ∈ t.rows, ¬ s.OpenOn id
  | .deleteLead leadId _ _ => ∀ d ∈ s.store.deliveriesOf leadId, ¬ s.OpenOn d.id
  | _ => True

end RankRent.Leads
