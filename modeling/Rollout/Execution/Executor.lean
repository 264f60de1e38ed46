import Rollout.Execution
import Rollout.RequestQueue
import Rollout.Signal

/-!
# The executor

An executor takes fragments from its request queue, one at a time and in their order, executes each
to its end, and keeps the latest outcomes. It can be run more than once, and each run has a signal
of its own, which ends it between two fragments; so does the queue when it is closed and empty. A
fragment can also be handed to an executor directly.
-/

namespace Rollout

/-- A fragment in execution: what is left to be done, when it goes on, and since when it waits. -/
structure Job where
  fragment : Fragment
  rest : Routine Report
  due : Nat
  since : Nat

/-- Where the run of an executor stands. -/
inductive RunState
  /-- About to ask for a fragment, or waiting under a ticket. -/
  | asking (ticket : Option Nat)
  | working (j : Job)
  | ended

/-- A run of an executor. -/
structure Run where
  signal : Signal := {}
  state : RunState := .asking none

/-- Where a fragment stands that was handed over directly. -/
inductive Errand
  /-- There is none. -/
  | none
  | working (j : Job)
  | finished (result : Except ExecutionError Unit)

/-- An executor of fragments. -/
structure Executor where
  factory : Factory
  historySize : Nat := 100
  requests : RequestQueue := {}
  /-- The latest outcomes, oldest first. -/
  history : List Outcome := []
  /-- Its runs, the earliest first. -/
  runs : List Run := []
  errand : Errand := .none
  /-- Those who ask its queue for one fragment. -/
  callers : List Caller := []

namespace Executor

/-- Keep an outcome, and of all outcomes the latest. -/
def record (x : Executor) (o : Outcome) : Executor :=
  let history := x.history ++ [o]
  { x with history := history.drop (history.length - x.historySize) }

/-- A fragment whose execution begins. -/
def begin (x : Executor) (now : Nat) (f : Fragment) : Job := ⟨f, f.execute x.factory, now, now⟩

/-- A job as far as it comes at once: the report at its end, or the job that is left. -/
def carryOn (me : Nat) (e : Env) (j : Job) : Env × (Report ⊕ Job) :=
  match j.rest.proceed me e with
  | (.done r, e) => (e, .inl r)
  | (.waiting millis rest, e) =>
    (e, .inr { j with rest := rest, due := e.now + millis, since := e.now })

/-! ## Tasks -/

/-- What goes on in an executor at the same time. -/
inductive Task
  /-- A run takes fragments and executes them. -/
  | run (number : Nat)
  /-- A run obeys its signal. -/
  | stop (number : Nat)
  /-- The fragment that was handed over directly is executed. -/
  | errand
  /-- A caller of the request queue. -/
  | call (number : Nat)
  deriving DecidableEq, Repr

/-- The executor after a change of the run with a number. -/
def onRun (x : Executor) (i : Nat) (f : Run → Run) : Executor :=
  { x with runs := x.runs.modify i f }

/-- The executor with another state of a run. -/
def withRun (x : Executor) (i : Nat) (s : RunState) : Executor :=
  x.onRun i fun r => { r with state := s }

/-- A run asks for a fragment. -/
def ask (x : Executor) (now i : Nat) (ticket : Option Nat) : Executor :=
  let q := x.requests.greet ticket
  match q.offer with
  | .item f => { x with requests := q.pop }.withRun i (.working (x.begin now f))
  | .closed => { x with requests := q }.withRun i .ended
  | .nothing => { x with requests := q.park }.withRun i (.asking (some q.bell.nextTicket))

/-- A step of a run. -/
def runStep (x : Executor) (me : Nat) (e : Env) (i : Nat) (r : Run) : Option (Env × Executor) :=
  match r.state with
  | .asking ticket =>
    if x.requests.bell.admits ticket then some (e, x.ask e.now i ticket) else none
  | .working j =>
    if j.due ≤ e.now then
      match carryOn me e j with
      | (e, .inl report) =>
        some (e, (x.record (report.outcome j.fragment)).withRun i (.asking none))
      | (e, .inr j) => some (e, x.withRun i (.working j))
    else none
  | .ended => none

/-- The step by which a run obeys its signal: only between two fragments. -/
def stopStep (x : Executor) (i : Nat) (r : Run) : Option Executor :=
  match r.state with
  | .asking ticket =>
    if r.signal.isSettled then
      some ({ x with requests := x.requests.leave ticket }.withRun i .ended)
    else none
  | .working _ | .ended => none

/-- A step of the fragment that was handed over directly. -/
def errandStep (x : Executor) (me : Nat) (e : Env) : Option (Env × Executor) :=
  match x.errand with
  | .working j =>
    if j.due ≤ e.now then
      match carryOn me e j with
      | (e, .inl r) =>
        some (e, { x.record (r.outcome j.fragment) with errand := .finished r.result })
      | (e, .inr j) => some (e, { x with errand := .working j })
    else none
  | .none | .finished _ => none

/-- The executor with another state of a caller. -/
def withCaller (x : Executor) (k : Nat) (caller : Caller) : Executor :=
  { x with callers := x.callers.set k caller }

/-- A caller asks for a fragment. -/
def answerCall (x : Executor) (me : Nat) (e : Env) (k : Nat) (caller : Caller) : Env × Executor :=
  let q := x.requests.greet caller.ticket
  match q.offer with
  | .item f =>
    (e.write me (.taken caller.name (some f.requestId)),
      { x with requests := q.pop }.withCaller k { caller with isServed := true })
  | .closed =>
    (e.write me (.taken caller.name none),
      { x with requests := q }.withCaller k { caller with isServed := true })
  | .nothing =>
    (e, { x with requests := q.park }.withCaller k { caller with ticket := some q.bell.nextTicket })

/-- A step of a caller. -/
def callStep (x : Executor) (me : Nat) (e : Env) (k : Nat) (caller : Caller) :
    Option (Env × Executor) :=
  if !caller.isServed && x.requests.bell.admits caller.ticket then
    some (x.answerCall me e k caller)
  else none

/-- A step of a task. -/
def step (x : Executor) (me : Nat) (e : Env) : Task → Option (Env × Executor)
  | .run i => x.runs[i]?.bind (x.runStep me e i)
  | .stop i => (x.runs[i]?.bind (x.stopStep i)).map (e, ·)
  | .errand => x.errandStep me e
  | .call k => x.callers[k]?.bind (x.callStep me e k)

/-- The tasks of an executor. -/
def tasks (x : Executor) : List Task :=
  ((List.range x.runs.length).flatMap fun i => [.run i, .stop i]) ++ [.errand] ++
    (List.range x.callers.length).map .call

/-- What is due at some time: when, since when it is waited for, and by which task. -/
def alarms (x : Executor) : List (Nat × Nat × Task) :=
  (x.runs.zipIdx.filterMap fun r =>
    match r.1.state with
    | .working j => some (j.due, j.since, .run r.2)
    | .asking _ | .ended => none) ++
  match x.errand with
  | .working j => [(j.due, j.since, .errand)]
  | .none | .finished _ => []

/-! ## Calls -/

/-- Start a run, whose number is the number of the runs before. -/
def start (x : Executor) : Executor := { x with runs := x.runs ++ [{}] }

/-- Whether the run with a number has ended. -/
def hasEnded (x : Executor) (i : Nat) : Bool :=
  match x.runs[i]? with
  | some { state := .ended, .. } => true
  | _ => false

/-- Hand over a fragment directly. -/
def submit (x : Executor) (now : Nat) (f : Fragment) : Executor :=
  { x with errand := .working (x.begin now f) }

/-- The result of the fragment that was handed over directly, once there is one. -/
def answer? (x : Executor) : Option (Except ExecutionError Unit) :=
  match x.errand with
  | .finished result => some result
  | _ => none

end Executor

end Rollout
