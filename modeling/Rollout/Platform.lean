import Rollout.Env
import Rollout.Signal

/-!
# The local platform

Nothing runs the workloads of the cluster in the process, so the platform plays that part: some time
after a workload was added it reports all replicas available, and some time after a route was added
it assigns a load balancer. What it has scheduled happens even after it was stopped.
-/

namespace Rollout

/-- An object that is made ready at a certain time, having been scheduled at another. -/
structure Readying where
  number : Nat
  kind : Kind
  key : String
  due : Nat
  since : Nat
  deriving DecidableEq, Repr

/-- Where the platform stands. -/
inductive PlatformState
  | starting
  /-- Following a stream of workloads and one of routes. -/
  | following (workloads routes : Nat)
  | ended
  deriving DecidableEq, Repr

/-- A platform that makes objects ready after a delay. -/
structure Platform where
  delay : Duration
  signal : Signal := {}
  /-- The version of the signal that it has seen. -/
  seen : Nat := 0
  state : PlatformState := .starting
  scheduled : List Readying := []
  nextNumber : Nat := 0
  deriving DecidableEq, Repr

namespace Platform

/-- The address of every load balancer. -/
def address : String := "127.0.0.1"

/-- The conditions of a workload that was made ready. -/
def conditions : List Condition :=
  [{ aspect := .available, holds := true, reason := "MinimumReplicasAvailable" },
    { aspect := .progressing, holds := true, reason := "NewReplicaSetAvailable" }]

/-- An object that is made ready: at least one replica of a workload is available, and a route has a
load balancer under its host. -/
def ready (o : Object) : Object :=
  { o with
    body := match o.body with
      | .workload w =>
        .workload
          { w with available := max w.replicas 1, unavailable := 0, conditions := conditions }
      | .network n => .network n
      | .route r => .route { r with balancers := [⟨r.host, address⟩] } }

/-- Schedule an object. -/
def schedule (p : Platform) (now : Nat) (o : Object) : Platform :=
  { p with
    scheduled := p.scheduled ++ [⟨p.nextNumber, o.kind, o.key, p.delay.deadline now, now⟩]
    nextNumber := p.nextNumber + 1 }

/-- Take in a change: only additions count. -/
def takeChange (p : Platform) (now : Nat) : Change → Platform
  | .added o => p.schedule now o
  | .modified _ | .deleted _ => p

/-! ## Tasks -/

/-- What goes on in a platform at the same time. -/
inductive Task
  | start
  /-- It follows the stream of a kind. -/
  | follow (kind : Kind)
  /-- It obeys the signal. -/
  | notice
  /-- An object is made ready. -/
  | ready (number : Nat)
  deriving DecidableEq, Repr

/-- Open both streams, then schedule what there is. -/
def startStep (p : Platform) (e : Env) : Option (Env × Platform) :=
  match p.state with
  | .starting =>
    let streams := PlatformState.following (e.cluster.streams .workload).fresh
      (e.cluster.streams .route).fresh
    let e := e.onCluster fun c =>
      (c.onStreams .workload Streams.open).onStreams .route Streams.open
    -- what is added from now on comes by the streams
    let present := (e.cluster.store .workload).list ++ (e.cluster.store .route).list
    some (e, present.foldl (·.schedule e.now) { p with state := streams })
  | _ => none

/-- The stream that the platform follows for a kind. -/
def stream? (p : Platform) : Kind → Option Nat
  | .workload => match p.state with
    | .following w _ => some w
    | _ => none
  | .route => match p.state with
    | .following _ r => some r
    | _ => none
  | .network => none

/-- A step along the stream of a kind. -/
def followStep (p : Platform) (e : Env) (kind : Kind) : Option (Env × Platform) :=
  match p.stream? kind with
  | none => none
  | some stream =>
    match (e.cluster.streams kind).look stream with
    | .change c => some (e.onCluster (·.onStreams kind (·.pop stream)), p.takeChange e.now c)
    | .quiet | .ended => none

/-- The platform stops following and lets go of its streams. -/
def «end» (p : Platform) (e : Env) (workloads routes : Nat) : Env × Platform :=
  (e.onCluster fun c =>
      (c.onStreams .workload (·.drop workloads)).onStreams .route (·.drop routes),
    { p with state := .ended })

/-- The step by which the platform obeys the signal. -/
def noticeStep (p : Platform) (e : Env) : Option (Env × Platform) :=
  match p.state with
  | .following w r =>
    if p.signal.version ≠ p.seen then
      if p.signal.value then some (p.end e w r)
      else some (e, { p with seen := p.signal.version })
    else if p.signal.dropped then some (p.end e w r)
    else none
  | _ => none

/-- An object is made ready when its time has come, if it is still there. -/
def readyStep (p : Platform) (e : Env) (number : Nat) : Option (Env × Platform) :=
  match p.scheduled.find? (·.number = number) with
  | none => none
  | some s =>
    if s.due ≤ e.now then
      some (e.onCluster (·.update s.kind s.key ready),
        { p with scheduled := p.scheduled.filter (·.number ≠ number) })
    else none

/-- A step of a task. -/
def step (p : Platform) (e : Env) : Task → Option (Env × Platform)
  | .start => p.startStep e
  | .follow kind => p.followStep e kind
  | .notice => p.noticeStep e
  | .ready number => p.readyStep e number

/-- The tasks of a platform. -/
def tasks (p : Platform) : List Task :=
  [.start, .follow .workload, .follow .route, .notice] ++ p.scheduled.map (.ready ·.number)

/-- What is due at some time: when, since when it is waited for, and by which task. -/
def alarms (p : Platform) : List (Nat × Nat × Task) :=
  p.scheduled.map fun s => (s.due, s.since, .ready s.number)

/-- Whether the platform has ended. -/
def hasEnded (p : Platform) : Bool := p.state = .ended

end Platform

end Rollout
