import RankRent.Library.Table
import RankRent.Library.Matching
import RankRent.Library.Descents
import RankRent.Library.Runs
import RankRent.Library.Programs
import RankRent.Library.Checks
import RankRent.Library.Files
import RankRent.Library.PyString
import RankRent.Library.PyWords
import RankRent.Library.PyDict
import RankRent.Library.PyFloat
import RankRent.Library.PyJson
import RankRent.Library.JsonText
import RankRent.Library.JsonRoundTrip
import RankRent.Library.PyRepr
import RankRent.Library.PyUrl
import RankRent.Library.Sha256
import RankRent.Store.Schema
import RankRent.Store.Session
import RankRent.Provider.CallRows
import RankRent.CostControls.Operations
import RankRent.CostControls.Qualification
import RankRent.CostControls.Buckets
import RankRent.CostControls.Effects
import RankRent.CostControls.Ledger
import RankRent.CostControls.LedgerSteps
import RankRent.CostControls.LedgerRuns
import RankRent.CostControls.Ceiling
import RankRent.CostControls.Billing
import RankRent.CostControls.ResolvedCalls
import RankRent.Store.Reviews
import RankRent.Worker.Queue
import RankRent.Pipeline.Rows
import RankRent.Worker.System
import RankRent.Worker.Recovery
import RankRent.Worker.Attempts
import RankRent.Worker.RowMoves
import RankRent.Worker.Commits
import RankRent.Pipeline.Fencing
import RankRent.Pipeline.Completion
import RankRent.Worker.Orphans
import RankRent.Provider.Requests
import RankRent.Provider.LateFinish
import RankRent.Provider.ParseResponse
import RankRent.Provider.Slots
import RankRent.Provider.Planning
import RankRent.Provider.Retries
import RankRent.Provider.PlanFit
import RankRent.Provider.PlanCosts
import RankRent.Research.Markets
import RankRent.Evidence.Text
import RankRent.Evidence.Normalisers
import RankRent.Evidence.Totality
import RankRent.Evidence.Competitors
import RankRent.Evidence.JoinBack
import RankRent.Evidence.Keywords
import RankRent.Evidence.KeywordPlans
import RankRent.Evidence.KeywordClusters
import RankRent.Review.Decisions
import RankRent.Review.Versions
import RankRent.Api.System
import RankRent.Api.Moves
import RankRent.Api.Requests
import RankRent.Api.Steps
import RankRent.Api.Active
import RankRent.Api.Running
import RankRent.Api.Startable
import RankRent.Api.Approvals
import RankRent.Research.Tasks
import RankRent.Research.Stages
import RankRent.Provider.FirstAttempt
import RankRent.Research.Agreement
import RankRent.Api.BatchCosts
import RankRent.Provider.Spending
import RankRent.Provider.SessionMoves
import RankRent.Provider.Ownership
import RankRent.Provider.AttemptFencing
import RankRent.Provider.SingleSend
import RankRent.Provider.CostReport
import RankRent.Review.Completeness
import RankRent.Review.LedgerCheck
import RankRent.Review.Rescore
import RankRent.Review.History
import RankRent.Security.Audit
import RankRent.Security.AuditChain
import RankRent.Api.AuditedRequests
import RankRent.Research.ReplayBundles
import RankRent.Cache.Blobs
import RankRent.Cache.Responses
import RankRent.Cache.RoundTrip
import RankRent.Library.CreateOnce
import RankRent.Cache.FileBlobs
import RankRent.Cache.ObjectBlobs
import RankRent.Cache.ImmutableBlobs
import RankRent.Leads.Rows
import RankRent.Leads.Worker
import RankRent.Leads.Privacy
import RankRent.Leads.Intake
import RankRent.Leads.System
import RankRent.Leads.Turns
import RankRent.Leads.Sessions
import RankRent.Leads.Commits
import RankRent.Leads.Fencing
import RankRent.Leads.Steps
import RankRent.Leads.Queue
import RankRent.Leads.WriteFence
import RankRent.Leads.Refreshes
import RankRent.Leads.Snapshots
import RankRent.Leads.LeadStatus
import RankRent.Leads.Erasure
import RankRent.Leads.Erased
import RankRent.Properties.Rows
import RankRent.Properties.Providers
import RankRent.Properties.Assignments
import RankRent.Properties.Workflow
import RankRent.Properties.Releases
import RankRent.Properties.System
import RankRent.Properties.SiteConfigs
import RankRent.Properties.History
import RankRent.Properties.Domains
import RankRent.Properties.Deployments
import RankRent.Properties.Gates
import RankRent.Properties.LiveSites
import RankRent.Properties.Writes
import RankRent.Properties.Advertised
import RankRent.Properties.Interrupted
import RankRent.PublicData.Registry
import RankRent.PublicData.Activations
import RankRent.PublicData.Lock
import RankRent.Scoring.Threats
import RankRent.Scoring.ListOrder
import RankRent.Prefilter.SupplyCounts
import RankRent.Prefilter.AssessmentBounds
import RankRent.Geography.Completeness
import RankRent.Catalog.Drafts
import RankRent.Library.Effects
import RankRent.Properties.Replacement
import RankRent.Review.Overrides
import RankRent.Library.Blocks
import RankRent.Properties.DomainCandidates
import RankRent.Repositories.RoundTrip
import RankRent.Leads.Submissions
import RankRent.Leads.Alerts
import RankRent.PublicData.RecordFiles
import RankRent.PublicData.Staging
import RankRent.PublicData.Undisturbed
import RankRent.PublicData.Interrupted
import RankRent.PublicData.Recovery
import RankRent.PublicData.Crashes
import RankRent.Properties.SiteBuilder
import RankRent.Properties.SiteMarkup
import RankRent.Library.SlidingWindow
import RankRent.Security.RateLimiters
import RankRent.Library.PyGroups
import RankRent.Outcomes.Records
import RankRent.Outcomes.Reports
import RankRent.Outcomes.ReportOrder
import RankRent.Outcomes.Calibration
