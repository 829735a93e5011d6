import RankRent.Store.Reviews
import RankRent.Store.Session
import RankRent.Worker.Queue

/-!
# What the pipeline writes on its scan row

`services/scanner.py`. The pipeline's session holds the row from
`_prepare_scan_run` on, refreshed when a stage begins; a commit of the session
writes the columns that differ from that copy (`ScanRun.flush`). Stage changes
are a compare-and-set on the lease.
-/

namespace RankRent

/-- What `_prepare_scan_run` sets. -/
def ScanRun.prepareRun (scan : ScanRun) (opportunityId : Nat) (source : ScanSource)
    (now : DateTime) : ScanRun :=
  { scan with
    opportunityId := some opportunityId
    source := source
    status := .running
    progressStage := .planning
    actualCost := 0
    startedAt := some now
    completedAt := none
    errorSummary := none }

/-- The values `_set_stage` writes: the stage, and the session's outputs with
it noted. -/
def ScanRun.enterStage (row loaded : ScanRun) (stage : ScanStage) : ScanRun :=
  { row with
    progressStage := stage
    partialOutputs := loaded.partialOutputs.put "last_successful_stage" (.stage stage) }

/-- The finalisation of `run`. -/
def ScanRun.completeRun (scan : ScanRun) (actualCost : Usd) (now : DateTime) : ScanRun :=
  { scan with
    status := .completed
    progressStage := .completed
    completedAt := some now
    actualCost := actualCost }

/-- The `except ScanCancelled` branch. -/
def ScanRun.cancelRun (scan : ScanRun) (actualCost : Usd) (now : DateTime) : ScanRun :=
  { scan with
    status := .cancelled
    progressStage := .cancelled
    completedAt := some now
    actualCost := actualCost
    partialOutputs := scan.partialOutputs.put "cancelled" (.flag true) }

/-- The `except Exception` branch. -/
def ScanRun.failRun (scan : ScanRun) (error : WorkerError) (actualCost : Usd) (now : DateTime) :
    ScanRun :=
  { scan with
    status := .failed
    progressStage := .failed
    errorSummary := some error.message
    completedAt := some now
    actualCost := actualCost
    partialOutputs := (scan.partialOutputs.put "failed_stage" (.stage scan.progressStage)).put
      "error" (.text error.message) }

/-- The text of a stage column. -/
def ScanStage.text : ScanStage → String
  | .queued => "queued"
  | .planning => "planning"
  | .discoveringKeywords => "discovering_keywords"
  | .fetchingMetrics => "fetching_metrics"
  | .fetchingSerps => "fetching_serps"
  | .fetchingCompetitors => "fetching_competitors"
  | .fetchingProviders => "fetching_providers"
  | .scoring => "scoring"
  | .persistingResults => "persisting_results"
  | .completed => "completed"
  | .failed => "failed"
  | .cancelled => "cancelled"
  | .quarantined => "quarantined"

/-- The reasons the branches give to `transition_system`. -/
def cancelReason : String := "Scan was cancelled before assessment completion."

def failReason (stage : ScanStage) (error : WorkerError) : String :=
  "Scan failed during " ++ stage.text ++ ": " ++ error.message

end RankRent
