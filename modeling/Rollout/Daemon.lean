import Rollout.Config
import Rollout.Deployment.Local
import Rollout.Plane

/-!
# The daemon

A deployment manager over a cluster in the process: an executor with local deployers, a controller
for each kind of object, and the local platform. Its configuration is checked when it is assembled,
so that nothing can be wrong with it any more when it starts. It can be started again after it was
stopped, but its queue stays closed and its controllers stop at once.
-/

namespace Rollout.Daemon

/-- Why no daemon can be assembled. -/
inductive Failure
  | flawed (flaw : Config.Flaw)
  /-- The cluster is not the one in the process. -/
  | remote
  deriving DecidableEq, Repr

/-- The text of a failure. -/
def Failure.message : Failure → String
  | flawed flaw => "invalid configuration: " ++ flaw.message
  | remote => "only local mode is supported: set cluster.local = true"

/-- The number of the executor. -/
def executor : Nat := 0

/-- The numbers of the controllers. -/
def controllers : List Nat := [1, 2, 3]

/-- The settings of the controllers of a daemon that can be assembled. -/
def prepare (c : Config) : Except Failure Settings :=
  match c.check with
  | .error flaw => .error (.flawed flaw)
  | .ok () =>
    if !c.cluster.isLocal then .error .remote
    else
      match Settings.ofConfig c.reconcile with
      | .error flaw => .error (.flawed flaw)
      | .ok settings => .ok settings

/-- A daemon before it is started: an empty cluster, and an executor and controllers that do not
run. -/
def assemble (c : Config) : Except Failure Plane :=
  (prepare c).map fun settings =>
    let executor : Executor :=
      { factory := Installation.factory c.cluster.space, historySize := c.executor.historySize }
    { env := { cluster := .ofSpace c.cluster.space }
      processes := .executor executor ::
        [Kind.workload, .network, .route].map fun kind => .controller (.dormant kind settings) }

/-- What is begun by a start and ended by a stop, besides the controllers. -/
structure Background where
  /-- The number of the run of the executor. -/
  run : Nat
  /-- The number of the platform. -/
  platform : Nat
  deriving DecidableEq, Repr

/-- Start a daemon: its controllers and its executor run, and a platform is added. -/
def start (c : Config) (p : Plane) : Except Config.Flaw (Plane × Background) := do
  let delay ← c.cluster.readReadyDelay
  let runs := ((p.executor? executor).map (·.runs.length)).getD 0
  let p := (controllers.foldl Plane.startShift p).startRun executor
  return (p.add (.platform { delay := delay }), ⟨runs, p.fresh⟩)

/-- Close the request queue of a daemon and tell all that goes on in the background to end. -/
def stop (p : Plane) (b : Background) : Plane :=
  let p := match p.executor? executor with
    | some x => p.set executor (.executor { x with requests := x.requests.close })
    | none => p
  let p := (p.onRunSignal executor b.run (·.send true)).onSignal b.platform (·.send true)
  controllers.foldl (fun p i => p.onSignal i (·.send true)) p

end Rollout.Daemon
