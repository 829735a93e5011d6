import RankRent.Leads.Rows
import RankRent.Library.PyString
import Mathlib.Data.List.Sort

/-!
# The lead delivery worker

`lead_routing/worker.py`. A transaction is split where it matters: what its
statements read, with the rows it is about to write, and its commit.
-/

namespace RankRent.Leads

/-- `masked_destination`. -/
def maskedDestination (destination : String) : String :=
  let text := destination.toList
  if '@' ∈ text then
    String.ofList ((text.takeWhile (· ≠ '@')).take 1) ++ "***@" ++
      String.ofList ((text.dropWhile (· ≠ '@')).drop 1)
  else
    let digits := text.filter PyString.isDigit
    if digits.isEmpty then "<configured>"
    else "***" ++ String.ofList (digits.drop (digits.length - 4))

/-! ## Sessions -/

/-- A session of the worker: the rows its statements read, the instances it
changed, newest first, and the rows it adds. Sessions do not flush before a
query, so a query finds the rows of the database, with the attributes of the
instances the session changed. -/
structure Session where
  db : Store
  deliveries : List ProviderDelivery
  attempts : List RoutingAttempt
  leads : List Lead
  newAttempt : Option RoutingAttempt
  newEvents : List LeadEvent

def Session.opened (db : Store) : Session := ⟨db, [], [], [], none, []⟩

namespace Session

variable (t : Session)

/-- `session.get(LeadORM, id)`. -/
def lead? (id : String) : Option Lead := (Table.get Lead.id t.leads id).or (t.db.lead? id)

/-- A delivery a query returned, as the session holds it. -/
def held (row : ProviderDelivery) : ProviderDelivery :=
  (Table.get ProviderDelivery.id t.deliveries row.id).getD row

def putDelivery (delivery : ProviderDelivery) : Session :=
  { t with deliveries := delivery :: t.deliveries }

def putAttempt (attempt : RoutingAttempt) : Session := { t with attempts := attempt :: t.attempts }

def putLead (lead : Lead) : Session := { t with leads := lead :: t.leads }

/-- What the flush of the session leaves of a stored delivery. -/
def writeDelivery (stored : ProviderDelivery) : ProviderDelivery :=
  match Table.get ProviderDelivery.id t.deliveries stored.id, t.db.delivery? stored.id with
  | some new, some loaded => ProviderDelivery.flush loaded new stored
  | _, _ => stored

def writeAttempt (stored : RoutingAttempt) : RoutingAttempt :=
  match Table.get RoutingAttempt.id t.attempts stored.id,
    Table.get RoutingAttempt.id t.db.attempts stored.id with
  | some new, some loaded => RoutingAttempt.flush loaded new stored
  | _, _ => stored

def writeLead (stored : Lead) : Lead :=
  match Table.get Lead.id t.leads stored.id, t.db.lead? stored.id with
  | some new, some loaded => Lead.flush loaded new stored
  | _, _ => stored

/-- A new row would repeat the key of a stored one. -/
def collides (stored : Store) : Bool :=
  (t.newAttempt.any fun a => (stored.attempt? a.deliveryKey a.attemptNumber).isSome) ||
    t.newEvents.any fun e => stored.hasEvent e.leadId e.eventKey

/-- `session.commit()`: nothing is stored when a unique constraint is broken. -/
def commit (stored : Store) : Option Store :=
  if t.collides stored then none
  else some { stored with
    deliveries := stored.deliveries.map t.writeDelivery
    attempts := stored.attempts.map t.writeAttempt ++
      t.newAttempt.toList.map fun a => { a with id := nextId RoutingAttempt.id stored.attempts }
    leads := stored.leads.map t.writeLead
    events := t.newEvents.foldl
      (fun events e => events ++ [{ e with id := nextId LeadEvent.id events }]) stored.events }

end Session

/-! ## The status of a lead -/

/-- `_add_lead_event`. -/
def Session.addLeadEvent (t : Session) (leadId eventType eventKey : String) (now : DateTime) :
    Session :=
  if t.db.hasEvent leadId eventKey then t
  else
    { t with
      newEvents := t.newEvents ++ [{
        id := 0
        leadId := leadId
        eventType := eventType
        eventKey := eventKey
        truthBasis := "observed"
        sourceType := "system"
        sourceName := "lead-delivery-worker"
        occurredAt := now
        payload := .obj [] }] }

/-- The status the deliveries of a lead give it. -/
def routingStatus (deliveries : List ProviderDelivery) : LeadStatus :=
  if deliveries.any fun d => d.status.nonterminal then .routing
  else if deliveries.any fun d => d.status = .delivered then .delivered
  else .deliveryFailed

/-- The type and the key of the event of a lead that reaches a status. -/
def LeadStatus.event (leadId : String) : LeadStatus → Option (String × String)
  | .delivered => some ("provider_delivery", "delivery:" ++ leadId)
  | .deliveryFailed => some ("delivery_failed", "delivery-failed:" ++ leadId)
  | _ => none

/-- `_refresh_lead_state`. -/
def Session.refreshLeadState (t : Session) (leadId : String) (now : DateTime) : Session × Bool :=
  match t.lead? leadId with
  | none => (t, false)
  | some lead =>
    let status := routingStatus ((t.db.deliveriesOf leadId).map t.held)
    let t := t.putLead { lead with status := status }
    match status.event leadId with
    | none => (t, false)
    | some (eventType, eventKey) =>
      (t.addLeadEvent leadId eventType eventKey now, status = .deliveryFailed)

/-- The arguments of `_alert_failure`. -/
structure Alert where
  propertyId : String
  leadId : String
  reasonCode : String
  deriving DecidableEq

/-! ## The end of a delivery -/

def ProviderDelivery.failed (delivery : ProviderDelivery) (errorCode summary : String)
    (now : DateTime) : ProviderDelivery :=
  { delivery with
    status := .failed
    lastErrorCode := some errorCode
    lastErrorSummary := some summary
    completedAt := some now }.clearLease

/-- `_fail_delivery`. -/
def Session.failDelivery (t : Session) (delivery : ProviderDelivery) (errorCode summary : String)
    (now : DateTime) : Session × Option Alert :=
  let (t, leadFailed) := (t.putDelivery (delivery.failed errorCode summary now)).refreshLeadState
    delivery.leadId now
  if leadFailed then
    (t, (t.lead? delivery.leadId).map fun lead => ⟨lead.propertyId, lead.id, "all_deliveries_failed"⟩)
  else (t, none)

def RoutingAttempt.ended (attempt : RoutingAttempt) (status : AttemptStatus)
    (errorCode summary : String) (now : DateTime) : RoutingAttempt :=
  { attempt with
    status := status
    errorCode := some errorCode
    errorSummary := some summary
    completedAt := some now }

/-- How long a failed delivery waits for its next attempt. -/
def retryDelay (retryBaseSeconds retryMaxSeconds : ℚ) (attemptCount : Nat) : ℚ :=
  min retryMaxSeconds (retryBaseSeconds * 2 ^ (attemptCount - 1))

def ProviderDelivery.retried (delivery : ProviderDelivery) (delay : ℚ) (now : DateTime) :
    ProviderDelivery :=
  { delivery with status := .retrying, nextAttemptAt := some (now + delay) }.clearLease

def retryableCode : String := "retryable_adapter_failure"

def retryableSummary : String := "Delivery adapter reported a known transient failure."

/-- `_retry_or_fail`. -/
def Session.retryOrFail (t : Session) (delivery : ProviderDelivery) (attempt : RoutingAttempt)
    (retryBaseSeconds retryMaxSeconds : ℚ) (now : DateTime) : Session × Option Alert :=
  let t := t.putAttempt (attempt.ended .retryableFailure retryableCode retryableSummary now)
  let delivery := { delivery with
    lastErrorCode := some retryableCode
    lastErrorSummary := some retryableSummary }
  if delivery.maxAttempts ≤ delivery.attemptCount then
    t.failDelivery delivery "delivery_attempts_exhausted"
      "Delivery exhausted its bounded retry allowance." now
  else
    let delay := retryDelay retryBaseSeconds retryMaxSeconds delivery.attemptCount
    (((t.putDelivery (delivery.retried delay now)).refreshLeadState delivery.leadId now).1, none)

/-! ## Claiming and recovery -/

/-- `next_attempt_at IS NULL OR next_attempt_at <= now`, of a claimable row. -/
def ProviderDelivery.due (delivery : ProviderDelivery) (now : DateTime) : Bool :=
  delivery.status.claimable && delivery.nextAttemptAt.all fun at_ => at_ ≤ now

/-- The values `claim_next_delivery` sets. -/
def ProviderDelivery.claimed (delivery : ProviderDelivery) (workerId leaseToken : String)
    (leaseSeconds : ℚ) (now : DateTime) : ProviderDelivery :=
  { delivery with
    status := .leased
    workerId := some workerId
    leaseToken := some leaseToken
    claimedAt := some now
    heartbeatAt := some now
    leaseExpiresAt := some (now + leaseSeconds)
    nextAttemptAt := none }

/-- The values `_heartbeat_delivery` sets. -/
def ProviderDelivery.beaten (delivery : ProviderDelivery) (leaseSeconds : ℚ) (now : DateTime) :
    ProviderDelivery :=
  { delivery with heartbeatAt := some now, leaseExpiresAt := some (now + leaseSeconds) }

def Store.updateDelivery (s : Store) (id : String) (f : ProviderDelivery → ProviderDelivery) : Store :=
  { s with deliveries := s.deliveries.map fun d => if d.id = id then f d else d }

/-- The rows `recover_stale_deliveries` selects. -/
def ProviderDelivery.stale (delivery : ProviderDelivery) (staleAfterSeconds : ℚ) (now : DateTime) :
    Bool :=
  delivery.status.active &&
    ((delivery.leaseExpiresAt.all fun at_ => at_ < now) ||
      delivery.heartbeatAt.all fun at_ => at_ < now - staleAfterSeconds)

/-- The running attempt of the highest number. -/
def Store.runningAttempt (s : Store) (deliveryKey : String) : Option RoutingAttempt :=
  (s.attempts.filter fun a => a.deliveryKey = deliveryKey && a.status = .running).foldl
    (fun best a =>
      match best with
      | none => some a
      | some b => if b.attemptNumber < a.attemptNumber then some a else some b) none

def lostDuringCode : String := "worker_lost_during_provider_call"

def lostDuringSummary : String :=
  "The worker lease expired after provider delivery began. Automatic resend is blocked to prevent duplicate provider contact."

def ProviderDelivery.recovered (delivery : ProviderDelivery) (now : DateTime) : ProviderDelivery :=
  if delivery.status = .delivering then
    { delivery with
      status := .outcomeUnknown
      lastErrorCode := some lostDuringCode
      lastErrorSummary := some lostDuringSummary
      completedAt := some now }.clearLease
  else
    { delivery with
      status := .retrying
      nextAttemptAt := some now
      lastErrorCode := some "worker_lost_before_provider_call"
      lastErrorSummary := some "The worker lease expired before provider delivery began; the job was requeued."
      }.clearLease

/-- One turn of the loop of `recover_stale_deliveries`. -/
def Session.recoverDelivery (now : DateTime) (t : Session) (delivery : ProviderDelivery) : Session :=
  let t := t.putDelivery (delivery.recovered now)
  let t :=
    if delivery.status = .delivering then
      match t.db.runningAttempt delivery.deliveryKey with
      | some attempt =>
        t.putAttempt (attempt.ended .outcomeUnknown lostDuringCode lostDuringSummary now)
      | none => t
    else t
  (t.refreshLeadState delivery.leadId now).1

/-- `recover_stale_deliveries`, which skips the rows others lock. -/
def recoverStaleDeliveries (db : Store) (locked : List String) (staleAfterSeconds : ℚ)
    (now : DateTime) : Session :=
  ((db.deliveries.filter fun d => d.stale staleAfterSeconds now && d.id ∉ locked).insertionSort
    fun d e => d.id ≤ e.id).foldl (Session.recoverDelivery now) (Session.opened db)

/-! ## `run_delivery_by_id` -/

structure DeliveryRequest where
  deliveryKey : String
  propertyId : String
  leadId : String
  providerAssignmentId : Nat
  channel : DeliveryChannel
  destination : String
  contactName : String
  contactEmail : Option String
  contactPhone : Option String
  message : Option String
  deriving DecidableEq

/-- The attributes of a `DeliveryResult` the worker reads. -/
structure DeliveryResult where
  providerMessageId : String
  accepted : Bool
  retryable : Bool
  deriving DecidableEq

/-- How `adapter.deliver` ends. -/
inductive AdapterOutcome
  | returned (result : DeliveryResult)
  | retryableError
  | error
  deriving DecidableEq

/-- `_assignment_destination`. -/
def assignmentDestination (assignment : ProviderAssignment) : DeliveryChannel → Option String
  | .email => assignment.destinationEmail
  | .phone => assignment.destinationPhone

/-- The checks before the adapter is called; the adapters are known by name. -/
def checkDelivery (db : Store) (adapters : DeliveryChannel → Option String)
    (delivery : ProviderDelivery) : Except String DeliveryRequest :=
  match db.lead? delivery.leadId with
  | none => .error "lead_not_found"
  | some lead =>
    match db.assignment? delivery.providerAssignmentId with
    | none => .error "provider_assignment_not_found"
    | some assignment =>
      if assignment.status ≠ .active then .error "provider_assignment_not_active"
      else if lead.providerAssignmentId ≠ some assignment.id then .error "lead_assignment_mismatch"
      else if adapters delivery.channel ≠ some delivery.adapterName then
        .error "delivery_adapter_unavailable"
      else
        match assignmentDestination assignment delivery.channel with
        | none => .error "assignment_destination_unavailable"
        | some destination =>
          if maskedDestination destination ≠ delivery.destinationReference then
            .error "assignment_destination_changed"
          else .ok {
            deliveryKey := delivery.deliveryKey
            propertyId := lead.propertyId
            leadId := lead.id
            providerAssignmentId := assignment.id
            channel := delivery.channel
            destination := destination
            contactName := lead.name
            contactEmail := lead.email
            contactPhone := lead.phone
            message := lead.message }

/-- The first block of `run_delivery_by_id` before its commit, and what it does
after it. -/
structure Begun where
  session : Session
  request : Option (DeliveryRequest × Nat)
  alert : Option Alert

def beginDelivery (db : Store) (lease : DeliveryLease) (adapters : DeliveryChannel → Option String)
    (now : DateTime) : Option Begun :=
  match db.delivery? lease.deliveryId with
  | none => none
  | some delivery =>
    if delivery.owns lease = false then none
    else
      match checkDelivery db adapters delivery with
      | .error errorCode =>
        let (session, alert) := (Session.opened db).failDelivery delivery errorCode
          "Delivery failed validation before the provider adapter was called." now
        some ⟨session, none, alert⟩
      | .ok request =>
        let number := delivery.attemptCount + 1
        let started := { delivery with attemptCount := number, status := .delivering }
        let attempt : RoutingAttempt := {
          id := 0
          leadId := request.leadId
          providerAssignmentId := request.providerAssignmentId
          channel := delivery.channel
          deliveryKey := delivery.deliveryKey
          attemptNumber := number
          status := .running
          errorCode := none
          errorSummary := none
          startedAt := now
          completedAt := none }
        some ⟨{ (Session.opened db).putDelivery started with newAttempt := some attempt },
          some (request, number), none⟩

def ProviderDelivery.accepted (delivery : ProviderDelivery) (providerMessageId : String)
    (now : DateTime) : ProviderDelivery :=
  { delivery with
    providerMessageId := some providerMessageId
    status := .delivered
    deliveredAt := some now
    completedAt := some now
    lastErrorCode := none
    lastErrorSummary := none }.clearLease

/-- What the last block of `run_delivery_by_id` makes of the adapter's outcome. -/
def Session.settle (t : Session) (delivery : ProviderDelivery) (attempt : RoutingAttempt)
    (outcome : AdapterOutcome) (retryBaseSeconds retryMaxSeconds : ℚ) (now : DateTime) :
    Session × Option Alert :=
  let ends (status : AttemptStatus) (errorCode summary : String) : Session × Option Alert :=
    (t.putAttempt (attempt.ended status errorCode summary now)).failDelivery delivery errorCode
      summary now
  match outcome with
  | .retryableError => t.retryOrFail delivery attempt retryBaseSeconds retryMaxSeconds now
  | .error => ends .permanentFailure "adapter_failure" "Delivery adapter failed with a permanent error."
  | .returned result =>
    if result.accepted then
      let t := (t.putAttempt { attempt with status := .succeeded, completedAt := some now }).putDelivery
        (delivery.accepted result.providerMessageId now)
      ((t.refreshLeadState delivery.leadId now).1, none)
    else if result.retryable then
      t.retryOrFail delivery attempt retryBaseSeconds retryMaxSeconds now
    else ends .rejected "provider_rejected_delivery" "The provider adapter rejected delivery."

/-- The last block of `run_delivery_by_id` before its commit. -/
def finishDelivery (db : Store) (lease : DeliveryLease) (number : Nat) (outcome : AdapterOutcome)
    (retryBaseSeconds retryMaxSeconds : ℚ) (now : DateTime) : Option (Session × Option Alert) :=
  match db.delivery? lease.deliveryId with
  | none => none
  | some delivery =>
    if delivery.owns lease = false then none
    else
      match db.attempt? delivery.deliveryKey number with
      | none => none
      | some attempt =>
        some ((Session.opened db).settle delivery attempt outcome retryBaseSeconds retryMaxSeconds now)

end RankRent.Leads
