import Rollout.Api
import Rollout.Config.Text
import Rollout.Daemon
import Rollout.Deployment.Rehearsal
import Rollout.Main
import Rollout.Plane.Api
import Rollout.Proofs.Control.Retry
import Rollout.Proofs.Deployment.Atomic
import Rollout.Proofs.Control.Mirror
import Rollout.Proofs.Control.Update
import Rollout.Proofs.Execution.Requests
import Rollout.Proofs.Execution.Rollback
import Rollout.Proofs.Daemon.Census
import Rollout.Proofs.Control.Undisturbed
import Rollout.Proofs.Daemon.Duty
import Rollout.Proofs.Daemon.Maturity
import Rollout.Proofs.Daemon.Requests
import Rollout.Proofs.Daemon.Run
import Rollout.Proofs.Daemon.Convergence
import Rollout.Proofs.Control.Shift
import Rollout.Proofs.WorkQueue.History
import Rollout.Proofs.Control.Waiting
import Rollout.Proofs.Control.Shutdown
import Rollout.Proofs.Cluster.Lag
import Rollout.Proofs.Control.Environment
import Rollout.Proofs.Control.Relisting
import Rollout.Proofs.Control.Trailing
import Rollout.Proofs.Control.Agreement
import Rollout.Proofs.Cluster.ChangeLog
import Rollout.Proofs.WorkQueue.Delay
import Rollout.Proofs.Deployment.Registration
import Rollout.Proofs.Platform.Delay
import Rollout.Proofs.Control.Completion
import Rollout.Proofs.Control.Startup
import Rollout.Proofs.WorkQueue.Waking
import Rollout.Proofs.Daemon.Rest
import Rollout.Proofs.Tracker.History
import Rollout.Proofs.Cluster.Isolation
import Rollout.Proofs.Deployment.Separation
import Rollout.Proofs.Control.Trio
import Rollout.Proofs.Cluster.Uids
import Rollout.Proofs.Api.Effects
import Rollout.Proofs.Daemon.Removal
import Rollout.Proofs.Json.Forms
import Rollout.Proofs.Duration
import Rollout.Proofs.Control.Cycles
import Rollout.Proofs.Control.Schedule
import Rollout.Proofs.Backoff
import Rollout.Proofs.Execution.Acceptance
import Rollout.Proofs.Tracker.Views
import Rollout.Proofs.Execution.Outcomes
