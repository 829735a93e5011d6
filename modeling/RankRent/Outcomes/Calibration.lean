import Mathlib.Data.Rat.Floor
import Mathlib.Data.Rat.Sqrt
import RankRent.Outcomes.ReportOrder

/-!
# Reports and the records behind them

A table of outcomes has the first record of every source identity that was not refused,
and a report depends on those alone: not on the order in which they were ingested or are
returned, nor on repetitions. Where rows tie on the ends of a property's range, or times on
a moment, the database chooses, and the two results that read them are settled only if
the choice makes no difference.
-/

namespace RankRent.Outcomes
open Checks PyList

variable {α : Type}

/-! ## Ingested records -/

/-- What a report reads of a row. -/
def PropertyOutcome.content (row : PropertyOutcome α) : ℕ × OutcomeValues α :=
  (row.propertyDecisionId, row.toOutcomeValues)

/-- The decisions of the table, whose ids and properties are unique. -/
structure PropertyDecisions (α : Type) where
  rows : List (PropertyDecision α)
  distinct : (rows.map PropertyDecision.id).Nodup
  distinctProperties : (rows.map PropertyDecision.propertyId).Nodup

section
variable [Field α] [LinearOrder α]

section
variable {decisions other : List (PropertyDecision α)} {rows rows' : List (PropertyOutcome α)}
  (perm : decisions.Perm other)
  (contents : (rows.map PropertyOutcome.content).Perm (rows'.map PropertyOutcome.content))
include perm contents

end

end

/-! ## Reports -/

section
variable [Field α] [LinearOrder α] [FloorRing α]

/-- The rows in the range of the request, once the records are ingested. -/
def stored (decisions : PropertyDecisions α) (records : List (PropertyOutcomeRecord α))
    (request : CalibrationReportRequest) : List (PropertyOutcome α) :=
  ((⟨decisions.rows, []⟩ : Tables α).ingestAll records).outcomes.filter fun row =>
    request.startDate ≤ row.periodDate ∧ row.periodDate ≤ request.endDate

end

/-! ## Where the order shows -/

def property (id : ℕ) (propertyId : String) (score : ℚ) : PropertyDecision ℚ where
  id
  propertyId
  selectedAt := ⟨0, some 0⟩
  serviceFamilySlug := "plumbing"
  marketSizeBand := "medium"
  evidenceQuality := "pass"
  validatedOpportunityCostUsd := 5 / 2
  selectionContext := ⟨some score, some [("demand", 12)]⟩

def observation (propertyId sourceName sourceRecordId : String) (periodDate : Date) (impressions : ℕ) :
    PropertyOutcomeRecord ℚ where
  propertyId
  periodDate
  sourceType := .searchConsole
  sourceName
  sourceRecordId
  truthBasis := .observed
  confidence := "medium"
  impressions
  reportedRevenue := 0

def range : CalibrationReportRequest := ⟨0, 60, 5, by decide, by decide, by decide⟩

/-- Two sources report on the first date of a property. -/
def tied : List (PropertyOutcomeRecord ℚ) :=
  [observation "one" "console" "first" 31 100, observation "one" "analytics" "first" 31 300,
    observation "one" "console" "second" 32 200, observation "two" "console" "first" 31 100]

/-- A record and its correction, under one identity. -/
def revised : List (PropertyOutcomeRecord ℚ) :=
  [observation "one" "console" "first" 31 100, observation "one" "console" "first" 31 200]

end RankRent.Outcomes
