import Rollout.Control.Step
import Rollout.Execution.Executor
import Rollout.Platform

/-!
# The control plane

A control plane is a number of processes over one environment. Each process has tasks, and a task
takes steps as long as it can. The plane is settled when no task can take a step; then time may go
on to the next moment at which something is due. Which of several tasks goes first is left open by
`Plane.step`; `Plane.settle` and `Plane.advance` let them go in the order in which they became
ready.
-/

namespace Rollout

/-- A part of a control plane. -/
inductive Process
  | controller (c : Controller)
  | platform (p : Platform)
  | executor (x : Executor)

/-- A task of a process. -/
inductive ProcessTask
  | controller (t : Controller.Task)
  | platform (t : Platform.Task)
  | executor (t : Executor.Task)
  deriving DecidableEq, Repr

namespace Process

/-- A step of a task of the process with the number `me`. -/
def step (me : Nat) (e : Env) : Process → ProcessTask → Option (Env × Process)
  | .controller c, .controller t => (c.step me e t).map fun r => (r.1, .controller r.2)
  | .platform p, .platform t => (p.step e t).map fun r => (r.1, .platform r.2)
  | .executor x, .executor t => (x.step me e t).map fun r => (r.1, .executor r.2)
  | _, _ => none

/-- The tasks of a process. -/
def tasks : Process → List ProcessTask
  | .controller c => c.tasks.map .controller
  | .platform p => p.tasks.map .platform
  | .executor x => x.tasks.map .executor

/-- What is due in a process at some time: when, since when it is waited for, and by which task. -/
def alarms : Process → List (Nat × Nat × ProcessTask)
  | .controller c => c.alarms.map fun a => (a.1, a.2.1, .controller a.2.2)
  | .platform p => p.alarms.map fun a => (a.1, a.2.1, .platform a.2.2)
  | .executor x => x.alarms.map fun a => (a.1, a.2.1, .executor a.2.2)

end Process

/-- Processes over one environment; the number of a process is its place. -/
structure Plane where
  env : Env
  processes : List Process := []

namespace Plane

/-- A task of the process with a certain number. -/
structure Task where
  process : Nat
  task : ProcessTask
  deriving DecidableEq, Repr

/-- Something that is due at a certain time and is waited for since another. -/
structure Alarm where
  due : Nat
  since : Nat
  task : Task
  deriving DecidableEq, Repr

/-! ## Parts -/

/-- The number of the process that is added next. -/
def fresh (p : Plane) : Nat := p.processes.length

/-- Add a process. -/
def add (p : Plane) (x : Process) : Plane := { p with processes := p.processes ++ [x] }

/-- The plane with another state of a process. -/
def set (p : Plane) (i : Nat) (x : Process) : Plane := { p with processes := p.processes.set i x }

/-- The controller with a number. -/
def controller? (p : Plane) (i : Nat) : Option Controller :=
  match p.processes[i]? with
  | some (.controller c) => some c
  | _ => none

/-- The platform with a number. -/
def platform? (p : Plane) (i : Nat) : Option Platform :=
  match p.processes[i]? with
  | some (.platform c) => some c
  | _ => none

/-- The executor with a number. -/
def executor? (p : Plane) (i : Nat) : Option Executor :=
  match p.processes[i]? with
  | some (.executor x) => some x
  | _ => none

/-- Change the signal of a controller or of a platform. -/
def onSignal (p : Plane) (i : Nat) (f : Signal → Signal) : Plane :=
  match p.processes[i]? with
  | some (.controller c) => p.set i (.controller { c with signal := f c.signal })
  | some (.platform l) => p.set i (.platform { l with signal := f l.signal })
  | some (.executor _) | none => p

/-- Start a run of an executor, or change nothing if there is no such executor. -/
def startRun (p : Plane) (executor : Nat) : Plane :=
  match p.executor? executor with
  | some x => p.set executor (.executor x.start)
  | none => p

/-- Change the signal of a run of an executor. -/
def onRunSignal (p : Plane) (executor run : Nat) (f : Signal → Signal) : Plane :=
  match p.executor? executor with
  | some x => p.set executor (.executor (x.onRun run fun r => { r with signal := f r.signal }))
  | none => p

/-- Start a run of a controller: the time for its first listing begins. -/
def startShift (p : Plane) (controller : Nat) : Plane :=
  match p.controller? controller with
  | some c => p.set controller (.controller (c.start p.env.now))
  | none => p

/-! ## Steps -/

/-- A step of a task, if it can take one. -/
def step (p : Plane) (t : Task) : Option Plane :=
  match p.processes[t.process]? with
  | none => none
  | some x => (x.step t.process p.env t.task).map fun r => { p with env := r.1 }.set t.process r.2

/-- All tasks. -/
def tasks (p : Plane) : List Task :=
  p.processes.zipIdx.flatMap fun x => x.1.tasks.map (Task.mk x.2)

/-- The tasks that can take a step. -/
def ready (p : Plane) : List Task := p.tasks.filter fun t => (p.step t).isSome

/-- Whether no task can take a step. -/
def isSettled (p : Plane) : Bool := p.ready.isEmpty

/-- What is due at some time. -/
def alarms (p : Plane) : List Alarm :=
  p.processes.zipIdx.flatMap fun x => x.1.alarms.map fun a => ⟨a.1, a.2.1, ⟨x.2, a.2.2⟩⟩

/-! ## Settling -/

/-- Let tasks take at most `n` steps: the first of them until it can take no more, then the others,
and behind them those that have become ready meanwhile. -/
def run : Nat → List Task → Plane → Plane
  | 0, _, p => p
  | n + 1, t :: ts, p =>
    match p.step t with
    | some p => run n (t :: ts) p
    -- `t` is blocked; what it made ready queues up behind the others
    | none => run n (ts ++ p.ready.filter fun r => !ts.contains r) p
  | _ + 1, [], p => p

/-- The number of steps after which a plane is no longer expected to settle. -/
def patience : Nat := 100000

/-- Let tasks take steps until none can, first those in a list. -/
def settleFrom (first : List Task) (p : Plane) : Plane :=
  run patience (first ++ p.ready.filter fun r => !first.contains r) p

/-- Let tasks take steps until none can. -/
def settle (p : Plane) : Plane := p.settleFrom []

/-! ## Time -/

/-- The plane at a later time. -/
def atTime (p : Plane) (now : Nat) : Plane := { p with env := { p.env with now := now } }

/-- The next time after `now`, and not after `limit`, at which something is due. -/
def nextDue (p : Plane) (now limit : Nat) : Option { d : Nat // now < d ∧ d ≤ limit } :=
  (p.alarms.filterMap fun a =>
    if h : now < a.due ∧ a.due ≤ limit then some ⟨a.due, h⟩ else none).foldl
    (fun best d => match best with
      | none => some d
      | some b => if d.1 < b.1 then some d else some b) none

/-- Whether a task belongs to a platform. -/
def Task.isPlatform (t : Task) : Bool :=
  match t.task with
  | .platform _ => true
  | _ => false

/-- The tasks that something is due for, those first that wait longest, and of several that wait
equally long those of platforms. -/
def dueTasks (p : Plane) : List Task :=
  let comesFirst (a b : Alarm) : Bool :=
    a.since < b.since || (a.since = b.since && (a.task.isPlatform || !b.task.isPlatform))
  ((p.alarms.filter (·.due ≤ p.env.now)).mergeSort comesFirst).map (·.task)

/-- Settle at a time. -/
def settleAt (p : Plane) (now : Nat) : Plane :=
  let p := p.atTime now
  p.settleFrom p.dueTasks

/-- Let time go on from `now` to `limit`, and settle whenever something is due. -/
def advanceFrom (now limit : Nat) (p : Plane) : Plane :=
  match p.nextDue now limit with
  | none => p.atTime limit
  -- what becomes due while the plane settles is looked for again
  | some ⟨d, _⟩ => advanceFrom d limit (p.settleAt d)
termination_by limit - now

/-- Let some milliseconds pass. -/
def advance (p : Plane) (millis : Nat) : Plane := advanceFrom p.env.now (p.env.now + millis) p

/-! ## Waiting for a fragment -/

/-- When the fragment goes on that was handed to an executor directly, if it waits. -/
def errandDue (p : Plane) (i : Nat) : Option Nat :=
  match p.executor? i with
  | some x =>
    match x.errand with
    | .working j => some j.due
    | _ => none
  | none => none

/-- Let time go on until an executor has finished the fragment that was handed to it directly, at
most `n` waits of that fragment. -/
def awaitErrand (i : Nat) : Nat → Plane → Plane
  | 0, p => p
  | n + 1, p =>
    match p.errandDue i with
    | none => p
    | some due => awaitErrand i n (p.advance (due - p.env.now))

/-- Let an executor execute a fragment directly and wait until it has finished. -/
def execute (p : Plane) (i : Nat) (f : Fragment) : Plane :=
  match p.executor? i with
  | none => p
  | some x => awaitErrand i patience (p.set i (.executor (x.submit p.env.now f))).settle

end Plane

end Rollout
