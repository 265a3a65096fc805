import Reconciler.Dispatch.Rehearsal
import Reconciler.Inspect
import Reconciler.Main
import Reconciler.Proofs.Calls
import Reconciler.Proofs.Site
import Reconciler.Proofs.Lifecycle.Pass
import Reconciler.Proofs.Deletion.Guard
import Reconciler.Proofs.Deletion.Safety
import Reconciler.Proofs.Lifecycle.Run
import Reconciler.Proofs.Readiness
import Reconciler.Proofs.Lifecycle.Debounce
import Reconciler.Proofs.Readiness.Series
import Reconciler.Proofs.Site.Commits
import Reconciler.Proofs.Simulator.Building
import Reconciler.Proofs.Simulator.Creation
import Reconciler.Proofs.Convergence.Stage
import Reconciler.Proofs.Site.Resource
import Reconciler.Proofs.Convergence.Topology
import Reconciler.Proofs.Convergence.Provisioned
import Reconciler.Proofs.Deletion.Pass
import Reconciler.Proofs.Simulator.Removal
import Reconciler.Proofs.Site.Deletion
import Reconciler.Proofs.Teardown.Stage
import Reconciler.Proofs.Teardown.Rounds
import Reconciler.Proofs.Teardown.Completed
import Reconciler.Proofs.Dispatch.Attention
import Reconciler.Proofs.Dispatch.RunLoop
import Reconciler.Proofs.Store.Failure
import Reconciler.Proofs.Json.Number
import Reconciler.Proofs.Json.Parser
import Reconciler.Proofs.Json.Reader
import Reconciler.Proofs.Store.Document
import Reconciler.Proofs.Store.Disk
import Reconciler.Proofs.Store.Path
import Reconciler.Proofs.Store.Write
import Reconciler.Proofs.Store.Session
import Reconciler.Proofs.Lifecycle.WellFormed
import Reconciler.Proofs.Simulator.Moves
import Reconciler.Proofs.Simulator.Rules
import Reconciler.Proofs.Simulator.Membership
import Reconciler.Proofs.Simulator.Integrity
import Reconciler.Proofs.Store.Log
import Reconciler.Proofs.Deletion.Target
import Reconciler.Proofs.Store.Stop
import Reconciler.Proofs.Store.Crash
import Reconciler.Proofs.Dispatch.Interleaving
import Reconciler.Proofs.Locality
import Reconciler.Proofs.Simulator.Dependents
import Reconciler.Proofs.Site.Haste
import Reconciler.Proofs.Simulator.Locality
import Reconciler.Proofs.Site.Independence
import Reconciler.Proofs.Secrecy.Masked
import Reconciler.Proofs.Secrecy.Blind
import Reconciler.Proofs.Secrecy.Observation
import Reconciler.Proofs.Dispatch.Patience
import Reconciler.Proofs.Update.Idle
import Reconciler.Proofs.Convergence.Repair
import Reconciler.Proofs.Lifecycle.Discipline
import Reconciler.Proofs.Update.Redelivery
import Reconciler.Proofs.Store.Recovery
import Reconciler.Proofs.Store.Faults
import Reconciler.Proofs.Store.Backup
import Reconciler.Proofs.Store.Overwrite
import Reconciler.Proofs.Store.Opening
import Reconciler.Proofs.Site.CommitRule
import Reconciler.Proofs.Store.Readers
import Reconciler.Proofs.Simulator.DryRun
import Reconciler.Proofs.Simulator.Countdown
import Reconciler.Proofs.Encoding
import Reconciler.Proofs.Drift.Report
import Reconciler.Proofs.Config.Simulator
import Reconciler.Proofs.Daemon.Settings
import Reconciler.Proofs.Store.Manifests
