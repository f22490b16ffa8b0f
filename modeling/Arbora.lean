import Arbora.Agents.Resolution
import Arbora.Api.FrictionScan
import Arbora.Autonomy.Approvals
import Arbora.Autonomy.Budgets
import Arbora.Autonomy.Verdicts
import Arbora.Connectors.DesiredRevisions
import Arbora.Economics.AccountableInputs
import Arbora.Economics.Pagination
import Arbora.Economics.ReconciliationReports
import Arbora.Economics.Reloading
import Arbora.Fleet.CatalogTraversal
import Arbora.Fleet.ChildFailures
import Arbora.Fleet.ErrorBudget
import Arbora.Fleet.LoadFence
import Arbora.Fleet.Probes
import Arbora.Fleet.RestartBudget
import Arbora.Fleet.SlotConservation
import Arbora.Foundation.TenantIsolation
import Arbora.Gateway.AcknowledgedAlerts
import Arbora.Invoke.BackwardCompat
import Arbora.Invoke.EffectLaw
import Arbora.McpTasks.BoundAuthority
import Arbora.McpTasks.InputBounds
import Arbora.Messaging.Delivery
import Arbora.Messaging.FaithfulReplies
import Arbora.Messaging.SettledOnce
import Arbora.Migrations.Isolation
import Arbora.OAuth.Revocations
import Arbora.Placement.CompleteEvidence
import Arbora.Policy.FreshDecisions
import Arbora.PolicyPlane.RefusedAuthorize
import Arbora.Projection.Rebuild
import Arbora.Projection.TombstoneCleanup
import Arbora.Retrieval.CacheTransparency
import Arbora.Retrieval.GenerationStates
import Arbora.Runs.AdmittedOnce
import Arbora.Runs.AuditCommitment
import Arbora.Runs.CapacityAcquisition
import Arbora.Runs.CapacityLedger
import Arbora.Runs.GraphShape
import Arbora.Scaling.AuthorityChecks
import Arbora.Scaling.Convergence
import Arbora.Scaling.OverlapSafety
import Arbora.Scaling.RetryBudget
import Arbora.Scaling.ScaleBounds
import Arbora.Security.SpawnChain
import Arbora.Security.TokenCodec
import Arbora.Signals.AdmittedPages
import Arbora.Sources.Checkpoints
import Arbora.WebUi.Paging
import Arbora.WebUi.Saves
import Arbora.Workflows.DefinitionIdentity
import Arbora.Workflows.RollbackOrder
