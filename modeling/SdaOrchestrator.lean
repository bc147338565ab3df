import SdaOrchestrator.Lib.Transition
import SdaOrchestrator.Lib.Assoc
import SdaOrchestrator.Lib.Python
import SdaOrchestrator.Lib.Regex
import SdaOrchestrator.Lib.ReadCommitted
import SdaOrchestrator.Store.Lifecycle
import SdaOrchestrator.Store.Platform
import SdaOrchestrator.Store.Tables
import SdaOrchestrator.Store.Plans
import SdaOrchestrator.Store.Runs
import SdaOrchestrator.Store.Reservations
import SdaOrchestrator.Store.Evidence
import SdaOrchestrator.Reconciliation.OwnedState
import SdaOrchestrator.Reconciliation.Baseline
import SdaOrchestrator.Store.OwnedState
import SdaOrchestrator.Postgres.StatusEdges
import SdaOrchestrator.Store.Transactions
import SdaOrchestrator.Store.Valid
import SdaOrchestrator.Store.Backing
import SdaOrchestrator.Lib.Effects
import SdaOrchestrator.Worker.Session
import SdaOrchestrator.Worker.Apply
import SdaOrchestrator.Worker.Quiet
import SdaOrchestrator.Lib.Sha256
import SdaOrchestrator.Store.Cpython
import SdaOrchestrator.Worker.Backing
import SdaOrchestrator.Worker.Blocks
import SdaOrchestrator.Worker.Body
import SdaOrchestrator.Worker.Release
import SdaOrchestrator.Worker.Schedule
import SdaOrchestrator.Store.FabricLock
import SdaOrchestrator.Worker.Approved
import SdaOrchestrator.Intent.Addresses
import SdaOrchestrator.Worker.Acceptance
import SdaOrchestrator.Gates.GatePlan
import SdaOrchestrator.Planner.Plan
import SdaOrchestrator.Planner.Agreement
import SdaOrchestrator.Reconciliation.Removals
import SdaOrchestrator.Worker.Preflight
import SdaOrchestrator.Worker.NonBlocking
import SdaOrchestrator.Ise.Executable
import SdaOrchestrator.Ise.Ownership
import SdaOrchestrator.Ise.Lookups
import SdaOrchestrator.Postgres.AuditChain
import SdaOrchestrator.Store.LastDecision
import SdaOrchestrator.Adapters.Checkpoint
import SdaOrchestrator.Store.Retry
import SdaOrchestrator.Acceptance.FailOpen
import SdaOrchestrator.Worker.Endings
import SdaOrchestrator.MerakiWorkflow.Validated
import SdaOrchestrator.Renderer.AccessLists
import SdaOrchestrator.Renderer.LocalDhcp
import SdaOrchestrator.Allocator.Requested
import SdaOrchestrator.Allocator.HierarchyAgreement
import SdaOrchestrator.Allocator.Exact
import SdaOrchestrator.Allocator.Allocations
import SdaOrchestrator.Allocator.AddressPlan
import SdaOrchestrator.Postgres.Allocations
import SdaOrchestrator.MerakiWorkflow.SetAudit
import SdaOrchestrator.Api.Repaired
import SdaOrchestrator.Gates.VlanRanges
import SdaOrchestrator.Acceptance.DependencyCycles
import SdaOrchestrator.Store.Footprint
import SdaOrchestrator.Worker.Footprint
import SdaOrchestrator.Api.Auth
import SdaOrchestrator.Api.PocIntake
import SdaOrchestrator.Lib.Threads
import SdaOrchestrator.Api.Duties
import SdaOrchestrator.Api.DryRuns
import SdaOrchestrator.Worker.RuntimeRecovery
import SdaOrchestrator.Api.PocForms
