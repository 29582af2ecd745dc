import HobitQueue.Lib.Json
import HobitQueue.Lib.Program
import HobitQueue.Lib.Table
import HobitQueue.Lib.Text
import HobitQueue.Store.Rows
import HobitQueue.Store.Sqlite
import HobitQueue.Service.Basic
import HobitQueue.Service.Dependencies
import HobitQueue.Service.Lifecycle
import HobitQueue.Service.Tasks
import HobitQueue.Service.Control
import HobitQueue.Service.DirectWork
import HobitQueue.Service.RunLinks
import HobitQueue.Service.Context
import HobitQueue.Service.StartContext
import HobitQueue.Service.Start
import HobitQueue.Service.Selected
import HobitQueue.Service.Aggregate
import HobitQueue.Service.WorkerEvidence
import HobitQueue.Service.Finish
import HobitQueue.Service.Operator
import HobitQueue.Service.Review
import HobitQueue.Service.Completion
import HobitQueue.Service.Failure
import HobitQueue.Lib.Run
import HobitQueue.Queue.History
import HobitQueue.Queue.DependencyStates
import HobitQueue.Queue.DependencyGraph
import HobitQueue.Queue.RunLinks
import HobitQueue.Queue.InStep
import HobitQueue.Queue.Decisions
import HobitQueue.Queue.Records
import HobitQueue.Queue.AcceptedEvidence
import HobitQueue.Queue.SingleAttempt
import HobitQueue.Lib.Pool
import HobitQueue.Queue.ConcurrentDecisions
import HobitQueue.Queue.StartOnce
import HobitQueue.Queue.AggregateList
import HobitQueue.Queue.ConcurrentReviews
import HobitQueue.Lib.OptimisticLock
import HobitQueue.Queue.ControlLock
import HobitQueue.Desktop.RunnerCommands
import HobitQueue.Desktop.RunnerProtocol
import HobitQueue.Desktop.RunnerSteps
import HobitQueue.Desktop.Continuations
import HobitQueue.Desktop.OperatorStop
import HobitQueue.Desktop.ActiveRuns
import HobitQueue.Lib.CanonicalJson
import HobitQueue.Store.Workflows
import HobitQueue.Workflow.Runs
import HobitQueue.Workflow.Report
import HobitQueue.Workflow.Materialization
import HobitQueue.Workflow.Review
import HobitQueue.Workflow.Finalization
import HobitQueue.Workflow.FinalizationApply
import HobitQueue.Lib.Frame
import HobitQueue.Workflow.RunEffects
import HobitQueue.Workflow.Resolution
import HobitQueue.Workflow.RunSteps
import HobitQueue.Workflow.TerminalRuns
import HobitQueue.Workflow.CoherentRuns
import HobitQueue.Queue.TaskContext
import HobitQueue.Lib.JsonDocument
import HobitQueue.PromptPack.Input
import HobitQueue.PromptPack.Materialize
import HobitQueue.Lib.Checks
import HobitQueue.PromptPack.WellFormed
import HobitQueue.PromptPack.Created
import HobitQueue.PromptPack.Stored
import HobitQueue.PromptPack.Possible
import HobitQueue.PromptPack.Idempotence
import HobitQueue.PromptPack.Prediction
import HobitQueue.PromptPack.Identity
import HobitQueue.Lib.Entries
import HobitQueue.Workflow.Setup
import HobitQueue.Frontend.Tasks
import HobitQueue.Frontend.DogfoodLifecycle
import HobitQueue.Frontend.LifecycleRuns
import HobitQueue.Frontend.SmartGate
import HobitQueue.Frontend.Eligibility
import HobitQueue.Frontend.DependencyGates
import HobitQueue.Frontend.QueueRunner
import HobitQueue.Frontend.ActionBroker
import HobitQueue.Codex.LightweightJson
import HobitQueue.Lib.Utf8
import HobitQueue.Codex.DirectStream
import HobitQueue.Codex.DirectStreamEvents
import HobitQueue.Jdbc.Requests
import HobitQueue.Lib.Java
import HobitQueue.Jdbc.JsonParser
import HobitQueue.Jdbc.RequestRoundTrip
import HobitQueue.Lib.Fitting
import HobitQueue.Lib.JsonGrammar
import HobitQueue.Jdbc.SidecarResponse
import HobitQueue.Jdbc.ResponseMapping
import HobitQueue.Jdbc.PrintedSize
import HobitQueue.Jdbc.ResultTruth
import HobitQueue.Lib.SqlText
import HobitQueue.Jdbc.ReadOnlySql
import HobitQueue.Jdbc.ScannedSql
import HobitQueue.Jdbc.GateChecks
import HobitQueue.Jdbc.ReadOnlyGates
import HobitQueue.Queue.ContextBudget
import HobitQueue.Desktop.FailedStarts
import HobitQueue.Lib.Answers
import HobitQueue.Service.FinishChecks
import HobitQueue.Queue.FinishedRuns
import HobitQueue.Queue.StaleRuns
import HobitQueue.Lib.CanonicalForm
import HobitQueue.Workflow.CanonicalText
import HobitQueue.Workflow.ReportMerge
import HobitQueue.PromptPack.DependencyRelation
import HobitQueue.PromptPack.CreatedGraph
import HobitQueue.Workflow.Promotion
import HobitQueue.Workflow.AtomicSetup
import HobitQueue.Workflow.DownstreamGuards
import HobitQueue.Lib.MemberWrites
import HobitQueue.Workflow.ReviewChecks
import HobitQueue.Workflow.ReviewWrites
import HobitQueue.Workflow.ReviewRecords
import HobitQueue.Workflow.SettledReviews
import HobitQueue.Workflow.ReviewIdempotence
import HobitQueue.Lib.Framing
import HobitQueue.Git.Paths
import HobitQueue.Service.SettingsHash
import HobitQueue.Git.ContainedPaths
import HobitQueue.Frontend.RefusedTransitions
import HobitQueue.Frontend.GatePaths
import HobitQueue.Codex.JsonParser
import HobitQueue.Codex.ValueTexts
import HobitQueue.Lib.Utf8Bytes
import HobitQueue.Codex.ParserBytes
import HobitQueue.Lib.JsonSyntax
import HobitQueue.Codex.AcceptedTexts
import HobitQueue.Codex.DerivedTexts
import HobitQueue.Frontend.WorkerRouting
import HobitQueue.Frontend.SchedulerPlan
import HobitQueue.Frontend.PlanViews
import HobitQueue.Frontend.FlowMap
import HobitQueue.Frontend.FlowMapPlaces
import HobitQueue.Frontend.FlowMapDepths
import HobitQueue.Lib.CycleReports
import HobitQueue.Frontend.WorkflowRequests
import HobitQueue.Frontend.TaskTemplates
import HobitQueue.Frontend.SmokeStarts
import HobitQueue.Lib.TextLines
import HobitQueue.Frontend.WorkflowGrants
import HobitQueue.Lib.TextWords
import HobitQueue.Frontend.EvidenceBundles
import HobitQueue.Store.KnowledgeSearch
import HobitQueue.Frontend.StableEvidence
import HobitQueue.Lib.StableSort
import HobitQueue.Frontend.QueueOrdering
import HobitQueue.Store.KnowledgeDocuments
import HobitQueue.Service.KnowledgeDocuments
import HobitQueue.Knowledge.Steps
import HobitQueue.Lib.Numerals
import HobitQueue.Knowledge.Runs
import HobitQueue.Lib.Ranking
import HobitQueue.Knowledge.Search
import HobitQueue.Lib.WaitsFor
import HobitQueue.Queue.StartOrder
import HobitQueue.Queue.Ownership
import HobitQueue.Lib.RecentOutput
import HobitQueue.Terminal.Sessions
import HobitQueue.Terminal.OutputBuffers
import HobitQueue.Terminal.Runs
import HobitQueue.Agent.AutonomyGrants
import HobitQueue.Agent.NextActions
import HobitQueue.Agent.ChainRequests
import HobitQueue.Agent.ChainRuns
