import RankRent.Library.PyJson
import RankRent.Library.Table
import RankRent.Store.Session

/-!
# Rows of the lead router

The tables of `lead_routing/orm.py`. Primary keys of leads and deliveries are
the `uuid4` strings of the source; the other tables number their rows. Status
columns, strings in the database, are enumerations.
-/

namespace RankRent.Leads

inductive DeliveryChannel
  | email | phone
  deriving DecidableEq, Repr

/-- `DeliveryChannel.value`. -/
def DeliveryChannel.value : DeliveryChannel → String
  | .email => "email"
  | .phone => "phone"

inductive ProviderAssignmentStatus
  | candidate | pilot | active | paused | terminated | replaced
  deriving DecidableEq, Repr

inductive LeadStatus
  | received | spam | routing | delivered | deliveryFailed | deleted
  deriving DecidableEq, Repr

inductive DeliveryStatus
  | pending | leased | delivering | retrying | delivered | failed | cancelled | outcomeUnknown
  deriving DecidableEq, Repr

/-- The `status` strings of a routing attempt. -/
inductive AttemptStatus
  | running | succeeded | retryableFailure | permanentFailure | rejected | outcomeUnknown
  deriving DecidableEq, Repr

/-- `CLAIMABLE_DELIVERY_STATUSES`. -/
def DeliveryStatus.claimable : DeliveryStatus → Bool
  | .pending | .retrying => true
  | _ => false

/-- `ACTIVE_DELIVERY_STATUSES`. -/
def DeliveryStatus.active : DeliveryStatus → Bool
  | .leased | .delivering => true
  | _ => false

/-- `NONTERMINAL_DELIVERY_STATUSES`. -/
def DeliveryStatus.nonterminal (status : DeliveryStatus) : Bool := status.claimable || status.active

structure RoutingProfile where
  propertyId : String
  opportunityId : Nat
  active : Bool
  deriving DecidableEq

structure ProviderAssignment where
  id : Nat
  propertyId : String
  status : ProviderAssignmentStatus
  destinationPhone : Option String
  destinationEmail : Option String
  deriving DecidableEq

structure Lead where
  id : String
  propertyId : String
  opportunityId : Nat
  providerAssignmentId : Option Nat
  channel : String
  status : LeadStatus
  name : String
  email : Option String
  phone : Option String
  postalCode : Option String
  message : Option String
  idempotencyKey : String
  dedupeHash : String
  subjectHash : String
  receivedAt : DateTime
  piiDeletedAt : Option DateTime
  retentionExpiresAt : DateTime
  deriving DecidableEq

structure LeadEvent where
  id : Nat
  leadId : String
  eventType : String
  eventKey : String
  truthBasis : String
  sourceType : String
  sourceName : String
  occurredAt : DateTime
  payload : PyJson

structure ConsentRecord where
  id : Nat
  leadId : String
  consentGranted : Bool
  consentText : String
  consentTextVersion : String
  referralDisclosureAcknowledged : Bool
  referralDisclosureText : String
  referralDisclosureVersion : String
  capturedAt : DateTime
  requestFingerprint : String
  proofMetadata : PyJson

structure SpamAssessment where
  id : Nat
  leadId : String
  score : ℚ
  disposition : String
  signals : List String
  assessorVersion : String
  deriving DecidableEq

structure RoutingAttempt where
  id : Nat
  leadId : String
  providerAssignmentId : Nat
  channel : DeliveryChannel
  deliveryKey : String
  attemptNumber : Nat
  status : AttemptStatus
  errorCode : Option String
  errorSummary : Option String
  startedAt : DateTime
  completedAt : Option DateTime
  deriving DecidableEq

structure ProviderDelivery where
  id : String
  leadId : String
  providerAssignmentId : Nat
  deliveryKey : String
  channel : DeliveryChannel
  destinationReference : String
  adapterName : String
  providerMessageId : Option String
  status : DeliveryStatus
  attemptCount : Nat
  maxAttempts : Nat
  nextAttemptAt : Option DateTime
  workerId : Option String
  leaseToken : Option String
  claimedAt : Option DateTime
  heartbeatAt : Option DateTime
  leaseExpiresAt : Option DateTime
  lastErrorCode : Option String
  lastErrorSummary : Option String
  deliveredAt : Option DateTime
  completedAt : Option DateTime
  deriving DecidableEq

structure LeadOutcome where
  id : Nat
  leadId : String
  outcomeType : String
  truthBasis : String
  sourceType : String
  sourceName : String
  sourceEventId : String
  occurredAt : DateTime
  valueUsd : Option Usd
  notes : Option String
  deriving DecidableEq

structure AnalyticsEvent where
  id : Nat
  propertyId : String
  leadId : Option String
  eventType : String
  truthBasis : String
  sourceType : String
  sourceName : String
  sourceEventId : String
  occurredAt : DateTime
  valueUsd : Option Usd
  payload : PyJson

/-- The committed rows. -/
structure Store where
  profiles : List RoutingProfile
  assignments : List ProviderAssignment
  leads : List Lead
  deliveries : List ProviderDelivery
  attempts : List RoutingAttempt
  events : List LeadEvent
  consents : List ConsentRecord
  spam : List SpamAssessment
  outcomes : List LeadOutcome
  analytics : List AnalyticsEvent

section Lookups
variable (s : Store)

def Store.lead? (id : String) : Option Lead := Table.get Lead.id s.leads id

def Store.delivery? (id : String) : Option ProviderDelivery :=
  Table.get ProviderDelivery.id s.deliveries id

def Store.assignment? (id : Nat) : Option ProviderAssignment :=
  Table.get ProviderAssignment.id s.assignments id

/-- The attempt with this delivery key and number, as their unique constraint
finds it. -/
def Store.attempt? (deliveryKey : String) (number : Nat) : Option RoutingAttempt :=
  Table.get (fun a => (a.deliveryKey, a.attemptNumber)) s.attempts (deliveryKey, number)

def Store.deliveriesOf (leadId : String) : List ProviderDelivery :=
  s.deliveries.filter fun d => d.leadId = leadId

/-- The lead has an event under this key. -/
def Store.hasEvent (leadId eventKey : String) : Bool :=
  s.events.any fun e => e.leadId = leadId && e.eventKey = eventKey

end Lookups

/-- The id an insert gives the next row of a numbered table. -/
def nextId {α : Type} (id : α → Nat) (rows : List α) : Nat := rows.foldl (fun n row => max n (id row)) 0 + 1

/-! ## Leases -/

structure DeliveryLease where
  deliveryId : String
  workerId : String
  leaseToken : String
  deriving DecidableEq

/-- `_owns`. -/
def ProviderDelivery.owns (delivery : ProviderDelivery) (lease : DeliveryLease) : Bool :=
  delivery.status.active && delivery.workerId = some lease.workerId &&
    delivery.leaseToken = some lease.leaseToken

/-- `_clear_lease`. -/
def ProviderDelivery.clearLease (delivery : ProviderDelivery) : ProviderDelivery :=
  { delivery with
    workerId := none
    leaseToken := none
    claimedAt := none
    heartbeatAt := none
    leaseExpiresAt := none }

theorem ProviderDelivery.owns_iff {delivery : ProviderDelivery} {lease : DeliveryLease} :
    delivery.owns lease = true ↔ delivery.status.active = true ∧
      delivery.workerId = some lease.workerId ∧ delivery.leaseToken = some lease.leaseToken := by
  simp [ProviderDelivery.owns, and_assoc]

@[simp] theorem DeliveryStatus.nonterminal_of_claimable {status : DeliveryStatus}
    (claimable : status.claimable = true) : status.nonterminal = true := by
  simp [DeliveryStatus.nonterminal, claimable]

@[simp] theorem DeliveryStatus.nonterminal_of_active {status : DeliveryStatus}
    (active : status.active = true) : status.nonterminal = true := by
  simp [DeliveryStatus.nonterminal, active]

/-! ## Flushes -/

/-- A changed instance of a delivery, written over the stored row. -/
def ProviderDelivery.flush (loaded new stored : ProviderDelivery) : ProviderDelivery where
  id := stored.id
  leadId := written loaded.leadId new.leadId stored.leadId
  providerAssignmentId := written loaded.providerAssignmentId new.providerAssignmentId stored.providerAssignmentId
  deliveryKey := written loaded.deliveryKey new.deliveryKey stored.deliveryKey
  channel := written loaded.channel new.channel stored.channel
  destinationReference := written loaded.destinationReference new.destinationReference stored.destinationReference
  adapterName := written loaded.adapterName new.adapterName stored.adapterName
  providerMessageId := written loaded.providerMessageId new.providerMessageId stored.providerMessageId
  status := written loaded.status new.status stored.status
  attemptCount := written loaded.attemptCount new.attemptCount stored.attemptCount
  maxAttempts := written loaded.maxAttempts new.maxAttempts stored.maxAttempts
  nextAttemptAt := written loaded.nextAttemptAt new.nextAttemptAt stored.nextAttemptAt
  workerId := written loaded.workerId new.workerId stored.workerId
  leaseToken := written loaded.leaseToken new.leaseToken stored.leaseToken
  claimedAt := written loaded.claimedAt new.claimedAt stored.claimedAt
  heartbeatAt := written loaded.heartbeatAt new.heartbeatAt stored.heartbeatAt
  leaseExpiresAt := written loaded.leaseExpiresAt new.leaseExpiresAt stored.leaseExpiresAt
  lastErrorCode := written loaded.lastErrorCode new.lastErrorCode stored.lastErrorCode
  lastErrorSummary := written loaded.lastErrorSummary new.lastErrorSummary stored.lastErrorSummary
  deliveredAt := written loaded.deliveredAt new.deliveredAt stored.deliveredAt
  completedAt := written loaded.completedAt new.completedAt stored.completedAt

/-- A worker changes these columns of an attempt and no others. -/
def RoutingAttempt.flush (loaded new stored : RoutingAttempt) : RoutingAttempt :=
  { stored with
    status := written loaded.status new.status stored.status
    errorCode := written loaded.errorCode new.errorCode stored.errorCode
    errorSummary := written loaded.errorSummary new.errorSummary stored.errorSummary
    completedAt := written loaded.completedAt new.completedAt stored.completedAt }

/-- A worker changes the status of a lead and no other column. -/
def Lead.flush (loaded new stored : Lead) : Lead :=
  { stored with status := written loaded.status new.status stored.status }

end RankRent.Leads
