import RankRent.Outcomes.Reports

/-!
# The order of the rows

What of a report depends on the order in which the decisions and the outcomes were
returned. All of it is sums, sets and groups but for two values of a property: the growth
of its impressions, from the first row by date to the last, and the day it was first
indexed on. They are settled where no tie leaves a choice.
-/

namespace RankRent.Outcomes
open PyNumber Checks PyList

/-! ## The earliest time -/

section
variable {α : Type} [Field α] [LinearOrder α]

/-- What of an item no tie decides. -/
def PropertyItem.settled (item : PropertyItem α) : PropertyItem α :=
  { item with indexingDays := none, impressionGrowth := none }

/-- The same item, but for the growth unless `even` and the time to indexing unless `oneDay`. -/
structure PropertyItem.Matches (even oneDay : Prop) (item other : PropertyItem α) : Prop where
  settled : item.settled = other.settled
  growth : even → item.impressionGrowth = other.impressionGrowth
  indexing : oneDay → item.indexingDays = other.indexingDays

omit [Field α] [LinearOrder α] in
theorem PropertyItem.Matches.score {even oneDay : Prop} {item other : PropertyItem α}
    (same : PropertyItem.Matches even oneDay item other) : item.score = other.score := by
  have scores := congrArg PropertyItem.score same.settled
  exact scores

/-- A measure that no tie decides. -/
def Measure.Settled (x : Measure) : Prop := x ≠ .indexingDays ∧ x ≠ .impressionGrowth

variable [FloorRing α] (sqrt : α → α) {items others : List (PropertyItem α)}

section
variable (same : (items.map PropertyItem.settled).Perm (others.map PropertyItem.settled))
include same

end

/-! ## What of a report is settled -/

/-- A report apart from its id and time. -/
def CalibrationReport.content (report : CalibrationReport α) : CalibrationReport α :=
  { report with reportId := 0, generatedAt := ⟨0, none⟩ }

/-- The result under a metric. -/
def CalibrationReport.result (report : CalibrationReport α) (metric : String) : Option (CorrelationResult α) :=
  report.correlations.find? fun result => result.metric = metric

/-- The content without the two results that ties can change, and without the warning on
the sizes of the samples. -/
def CalibrationReport.settled (report : CalibrationReport α) : CalibrationReport α :=
  { report.content with
    correlations := report.correlations.filter fun result =>
      result.metric ≠ "score_vs_indexing_time" ∧ result.metric ≠ "score_vs_impression_growth"
    warnings := [] }

variable (request : CalibrationReportRequest) (totals : TruthBasis → Totals α) {reportId reportId' : ℕ}
  {generatedAt generatedAt' : Datetime}

end

end RankRent.Outcomes
