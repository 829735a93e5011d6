import RankRent.CostControls.Effects
import RankRent.Provider.CallRows

/-!
# The ends of a provider request

The completion, failure and cancellation paths of `_request` in
`integrations/dataforseo/live.py`. They work on the instance of the call row the
session holds since it prepared the attempt (`seen`), whatever the stored row has
become.
-/

namespace RankRent.Provider

open CostControls

/-- `_finish_api_call` and `finish_provider_call` in one transaction; without a
reservation only the row is written. -/
def closeCall (db : Database) (i : Nat) (seen : ApiCall) (reservation : Option UsageReservation)
    (record : CallRecord) (q : FinishRequest) : Database :=
  let row := seen.finish record
  let recorded := db.putCall (some seen) i row
  match reservation with
  | none => recorded
  | some r => finishProviderCall recorded (some row) r q

/-- What a completed request brings back. -/
structure CallCompletion where
  payload : CallPayload
  rawResponseId : Option Nat
  cacheKey : String
  /-- `_payload_cost`. -/
  actualCost : Usd
  now : DateTime

def CallCompletion.record (c : CallCompletion) : CallRecord :=
  ⟨.completed, some c.payload, c.rawResponseId, some c.cacheKey, none, c.now⟩

def CallCompletion.request (settings : Settings) (c : CallCompletion) : FinishRequest :=
  { actualCost := c.actualCost
    failed := false
    schemaDrift := false
    abnormalCost := settings.singleCallAbnormalCost < c.actualCost
    providerOutcomeUnknown := false
    now := c.now }

/-- The end of the `try` of `_request`. -/
def completeCall (settings : Settings) (db : Database) (i : Nat) (seen : ApiCall)
    (r : UsageReservation) (c : CallCompletion) : Database :=
  closeCall db i seen (some r) c.record (c.request settings)

/-- An exception in `_request`: its class as the handler tells them apart,
whether a response had arrived, and the cost of the payload if it was parsed. -/
structure CallFailure where
  errorType : String
  message : String
  circuitOpen : Bool
  leaseLost : Bool
  schemaDrift : Bool
  responded : Bool
  payloadCost : Option Usd
  now : DateTime

/-- `ambiguous`: the request may have been billed. -/
def CallFailure.ambiguous (f : CallFailure) (seen : ApiCall) (reserved : Bool) : Bool :=
  reserved && seen.networkStartedAt.isSome && (!f.responded || f.leaseLost)

/-- The status the failure path records. -/
def CallFailure.status (f : CallFailure) (seen : ApiCall) (reserved : Bool) : CallStatus :=
  if f.ambiguous seen reserved then .providerOutcomeUnknown
  else if f.circuitOpen then .blocked
  else if seen.networkStartedAt = none then .failedBeforeNetwork
  else .failed

def CallFailure.record (f : CallFailure) (seen : ApiCall) (reserved : Bool) : CallRecord :=
  ⟨f.status seen reserved, none, none, none, some (f.errorType, f.message), f.now⟩

def CallFailure.request (f : CallFailure) (seen : ApiCall) (reserved : Bool) : FinishRequest :=
  { actualCost := f.payloadCost.getD 0
    failed := !f.circuitOpen
    schemaDrift := f.schemaDrift
    abnormalCost := false
    providerOutcomeUnknown := f.ambiguous seen reserved
    now := f.now }

/-- The `except Exception` of `_request`. -/
def failCall (db : Database) (i : Nat) (seen : ApiCall) (reservation : Option UsageReservation)
    (f : CallFailure) : Database :=
  closeCall db i seen reservation (f.record seen reservation.isSome)
    (f.request seen reservation.isSome)

/-- What `_finish_unknown_attempt` records. -/
def cancelRecord (seen : ApiCall) (now : DateTime) : CallRecord :=
  ⟨if seen.networkStartedAt.isSome then .providerOutcomeUnknown else .failedBeforeNetwork, none, none,
    none, some ("ScanLeaseLost", "Provider request interrupted after scan lease loss."), now⟩

def cancelRequest (seen : ApiCall) (now : DateTime) : FinishRequest :=
  { actualCost := 0
    failed := !seen.networkStartedAt.isSome
    schemaDrift := false
    abnormalCost := false
    providerOutcomeUnknown := seen.networkStartedAt.isSome
    now := now }

/-- The `except asyncio.CancelledError` of `_request`. -/
def cancelCall (db : Database) (i : Nat) (seen : ApiCall) (reservation : Option UsageReservation)
    (now : DateTime) : Database :=
  match reservation with
  | none => db
  | some r => closeCall db i seen (some r) (cancelRecord seen now) (cancelRequest seen now)

/-! ## What a path leaves -/

section Close
variable {db : Database} {i : Nat} {seen stored : ApiCall}

/-- The stored row after `_finish_api_call` and then `finish_provider_call`. -/
def closedRow (seen stored : ApiCall) (record : CallRecord) (q : FinishRequest) : ApiCall :=
  ApiCall.flush (seen.finish record) ((seen.finish record).settle q.providerOutcomeUnknown q.now)
    (ApiCall.flush seen (seen.finish record) stored)

theorem finish_reservationState (seen : ApiCall) (record : CallRecord) :
    (seen.finish record).reservationState = seen.reservationState := by
  unfold ApiCall.finish
  split <;> rfl

/-- A path whose session still sees its reservation open posts it and settles
the row. -/
theorem closeCall_open (there : db.calls[i]? = some stored) {r : UsageReservation}
    (target : r.apiCallId = some i) (open_ : seen.reservationState.closed = false)
    (record : CallRecord) (q : FinishRequest) :
    closeCall db i seen (some r) record q =
      { postUsage db r.usageDate r.usageClass r.provider r.endpoint
          (finishUsage r.estimatedCost q) with
        calls := db.calls.set i (closedRow seen stored record q) } := by
  have bound := (List.getElem?_eq_some_iff.mp there).1
  have recorded := Database.putCall_of_get there (some seen) (seen.finish record)
  simp only [Option.getD_some] at recorded
  have after : (db.putCall (some seen) i (seen.finish record)).calls[i]? =
      some (ApiCall.flush seen (seen.finish record) stored) := by
    rw [recorded]
    exact List.getElem?_set_self bound
  have held : (db.putCall (some seen) i (seen.finish record)).getCall (some (seen.finish record)) i =
      some (seen.finish record) := by
    simp [Database.getCall, after]
  have posted : (postUsage (db.putCall (some seen) i (seen.finish record)) r.usageDate r.usageClass
      r.provider r.endpoint (finishUsage r.estimatedCost q)).calls[i]? =
      some (ApiCall.flush seen (seen.finish record) stored) := by
    rw [postUsage_calls]
    exact after
  simp only [closeCall]
  rw [finishProviderCall_eq target held, finish_reservationState, open_]
  simp only [Bool.false_eq_true, ↓reduceIte]
  rw [Database.putCall_of_get posted, recorded]
  simp only [postUsage, Option.getD_some, List.set_set, closedRow]

end Close

end RankRent.Provider
