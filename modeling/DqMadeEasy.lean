import DqMadeEasy.Compiler.Tidy
import DqMadeEasy.Compiler.Balance
import DqMadeEasy.Gx.ReadBack
import DqMadeEasy.Semantics.Allowlist
import DqMadeEasy.Dispatch.Delivery
import DqMadeEasy.Lifecycle.Activation
import DqMadeEasy.Lifecycle.Retirement
import DqMadeEasy.Lifecycle.ApprovedDefinition
import DqMadeEasy.Lifecycle.VersionList
import DqMadeEasy.Lifecycle.History
import DqMadeEasy.Approvals.CommentReplay
import DqMadeEasy.Dispatch.Preservation
import DqMadeEasy.Runs.RuleHistory
import DqMadeEasy.Runs.ActiveRuns
import DqMadeEasy.Dispatch.HandoverRuns
import DqMadeEasy.RunPlans.Vetting
import DqMadeEasy.Runs.Adhoc
import DqMadeEasy.ServiceLevels.Evaluation
import DqMadeEasy.Queries.CatalogScope
import DqMadeEasy.Exceptions.Agreement
import DqMadeEasy.Approvals.RuleStatus
import DqMadeEasy.Artifacts.Saves
import DqMadeEasy.Connectors.SyncWorker
import DqMadeEasy.Execution.Alone
import DqMadeEasy.SparkExpectations.ErrorPlan
import DqMadeEasy.Lifecycle.Allocation
import DqMadeEasy.Lifecycle.Frame
import DqMadeEasy.Lifecycle.Advertised
import DqMadeEasy.Approvals.Deactivation
import DqMadeEasy.Lifecycle.Lookup
import DqMadeEasy.Trino.ExecutionPlan
import DqMadeEasy.Dispatch.PreFilter
import DqMadeEasy.Rules.Contradiction
import DqMadeEasy.RuleDsl.SchemaAgreement
import DqMadeEasy.Exceptions.Purge
import DqMadeEasy.Exceptions.Listing
import DqMadeEasy.RunPlans.TagSelection
import DqMadeEasy.RunPlans.Growth
import DqMadeEasy.Profiling.WorkerLoop
import DqMadeEasy.Materialization.Upload
import DqMadeEasy.Contracts.Governance
