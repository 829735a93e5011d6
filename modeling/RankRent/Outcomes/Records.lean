import Mathlib.Algebra.Field.Defs
import Mathlib.Order.Lattice
import RankRent.Library.Checks

/-!
# Property outcomes

`PropertyOutcomeRecord` of `outcomes/models.py`, the tables of `outcomes/orm.py` and
`PropertyOutcomeService.ingest` of `outcomes/services.py`, with exact numbers. The
metadata of an outcome is left out: it is stored, and no report reads it.
-/

namespace RankRent.Outcomes
open Checks

/-! ## Times -/

/-- A `datetime`: what its clock shows, in microseconds since 1970, and its `utcoffset()`. -/
structure Datetime where
  clock : ℤ
  offset : Option ℤ := none
  deriving DecidableEq

/-- A `date` is the number of its day. -/
abbrev Date := ℤ

def Datetime.date (d : Datetime) : Date := d.clock / 86400000000

/-- When it was; without an offset, by its clock. -/
def Datetime.moment (d : Datetime) : ℤ := d.clock - d.offset.getD 0

structure TypeError where
  message : String
  deriving DecidableEq

def naiveAndAware : TypeError := ⟨"can't compare offset-naive and offset-aware datetimes"⟩

/-- `a < b`. -/
def Datetime.before (a b : Datetime) : Except TypeError Bool :=
  if a.offset.isSome = b.offset.isSome then .ok (a.moment < b.moment) else .error naiveAndAware

/-- One round of `min`: the first of equal times is kept. -/
def Datetime.least (kept next : Datetime) : Except TypeError Datetime := do
  if ← next.before kept then return next else return kept

/-- `min(times)`, where there are any. -/
def earliest : List Datetime → Except TypeError (Option Datetime)
  | [] => .ok none
  | time :: times => some <$> times.foldlM Datetime.least time

/-! ## Rows -/

inductive TruthBasis
  | observed | providerReported | operatorVerified | estimated
  deriving DecidableEq

inductive OutcomeSourceType
  | searchConsole | webAnalytics | callTracking | formSubmission | provider | operator
  deriving DecidableEq

/-- `selection_context`, of which a report reads two keys. -/
structure SelectionContext (α : Type) where
  fullScoreTotal : Option α := none
  componentScores : Option (List (String × α)) := none

/-- `PropertyDecisionORM`, as far as outcomes and reports read it. -/
structure PropertyDecision (α : Type) where
  id : ℕ
  propertyId : String
  selectedAt : Datetime
  serviceFamilySlug : String
  marketSizeBand : String
  evidenceQuality : String
  validatedOpportunityCostUsd : α
  selectionContext : SelectionContext α

/-- What a record says of a period, which its row has too. -/
structure OutcomeValues (α : Type) where
  periodDate : Date
  sourceType : OutcomeSourceType
  sourceName : String
  sourceRecordId : String
  truthBasis : TruthBasis
  confidence : String
  impressions : ℕ := 0
  clicks : ℕ := 0
  averagePosition : Option α := none
  organicSessions : ℕ := 0
  calls : ℕ := 0
  forms : ℕ := 0
  qualifiedLeads : ℕ := 0
  appointments : ℕ := 0
  wonJobs : ℕ := 0
  reportedRevenue : α
  indexedAt : Option Datetime := none
  providerSuitabilityScore : Option α := none
  addressableMarketScore : Option α := none
  deriving DecidableEq

/-- `PropertyOutcomeRecord`. -/
structure PropertyOutcomeRecord (α : Type) extends OutcomeValues α where
  propertyId : String
  deriving DecidableEq

/-- `PropertyOutcomeORM`. -/
structure PropertyOutcome (α : Type) extends OutcomeValues α where
  id : ℕ
  propertyDecisionId : ℕ

/-! ## The validators -/

section Validators
variable {α : Type} [Field α] [LinearOrder α]

/-- `validate_source_truth`. -/
def OutcomeValues.validateSourceTruth (v : OutcomeValues α) : Except String Unit := do
  require (v.truthBasis = .providerReported → v.sourceType = .provider)
    "Provider-reported outcomes must use the provider source."
  require (v.truthBasis = .operatorVerified → v.sourceType = .operator)
    "Operator-verified outcomes must use the operator source."
  require (¬ (0 < v.reportedRevenue ∧ v.truthBasis = .estimated))
    "Estimated revenue cannot be stored as reported revenue."

/-- The text has as many characters as its field allows. -/
def Within (most : ℕ) (text : String) : Prop := 1 ≤ text.length ∧ text.length ≤ most

instance (most : ℕ) (text : String) : Decidable (Within most text) := inferInstanceAs (Decidable (_ ∧ _))

/-- `PropertyOutcomeRecord` lets the record be made. -/
def PropertyOutcomeRecord.Accepted (r : PropertyOutcomeRecord α) : Prop :=
  Within 120 r.propertyId ∧ Within 120 r.sourceName ∧ Within 160 r.sourceRecordId ∧
    r.confidence ∈ ["high", "medium", "low", "insufficient"] ∧ (∀ p ∈ r.averagePosition, 0 ≤ p) ∧
    0 ≤ r.reportedRevenue ∧ (∀ s ∈ r.providerSuitabilityScore, 0 ≤ s ∧ s ≤ 100) ∧
    (∀ s ∈ r.addressableMarketScore, 0 ≤ s ∧ s ≤ 100) ∧ r.validateSourceTruth = .ok ()

instance (r : PropertyOutcomeRecord α) : Decidable r.Accepted := inferInstanceAs (Decidable (_ ∧ _))

end Validators

/-! ## Ingesting -/

variable {α : Type}

structure OutcomeIntegrityError where
  code : String
  deriving DecidableEq

structure Tables (α : Type) where
  decisions : List (PropertyDecision α)
  outcomes : List (PropertyOutcome α) := []

/-- The row of the decision under the record's source identity. -/
def PropertyOutcome.IsOf (row : PropertyOutcome α) (decision : PropertyDecision α) (record : PropertyOutcomeRecord α) :
    Prop :=
  row.propertyDecisionId = decision.id ∧ row.sourceName = record.sourceName ∧
    row.sourceRecordId = record.sourceRecordId

instance (row : PropertyOutcome α) (decision : PropertyDecision α) (record : PropertyOutcomeRecord α) :
    Decidable (row.IsOf decision record) := inferInstanceAs (Decidable (_ ∧ _))

/-- The new row of a record. -/
def newOutcome (id : ℕ) (decision : PropertyDecision α) (record : PropertyOutcomeRecord α) : PropertyOutcome α :=
  { record.toOutcomeValues with id, propertyDecisionId := decision.id }

/-- `ingest`: the row of the record and the tables with it. -/
def ingest (tables : Tables α) (record : PropertyOutcomeRecord α) :
    Except OutcomeIntegrityError (PropertyOutcome α × Tables α) := do
  let decision ← found (tables.decisions.find? fun d => d.propertyId = record.propertyId)
    ⟨"property_decision_not_found"⟩
  require (decision.selectedAt.date ≤ record.periodDate) ⟨"outcome_precedes_property_selection"⟩
  require (∀ time ∈ record.indexedAt, decision.selectedAt.date ≤ time.date)
    ⟨"indexing_precedes_property_selection"⟩
  match tables.outcomes.find? fun row => row.IsOf decision record with
  | some existing => return (existing, tables)
  | none =>
    let row := newOutcome (tables.outcomes.length + 1) decision record
    return (row, { tables with outcomes := tables.outcomes ++ [row] })

/-- The tables after a call, which a refused one leaves as they are. -/
def Tables.ingested (tables : Tables α) (record : PropertyOutcomeRecord α) : Tables α :=
  match ingest tables record with
  | .ok (_, after) => after
  | .error _ => tables

/-- Records are ingested one after the other. -/
def Tables.ingestAll (tables : Tables α) (records : List (PropertyOutcomeRecord α)) : Tables α :=
  records.foldl Tables.ingested tables

end RankRent.Outcomes
