import Rollout.Control.Controller

/-!
# Controllers in motion

The tasks of a controller and the steps that they take. A step is what a task does between two
points at which others may act; a task without a step is blocked. Where a task waits for one of two
things, each of them is a task of its own, so that either may come first.
-/

namespace Rollout.Controller

/-- What goes on in a controller at the same time. A shift is named by its number, and so is what
belongs to it. -/
inductive Task
  /-- The run of a shift: from the first listing to the end. -/
  | run (shift : Nat)
  /-- The run obeys the signal. -/
  | stop (shift : Nat)
  /-- The informer follows the source. -/
  | inform (shift : Nat)
  /-- The informer obeys the signal. -/
  | notice (shift : Nat)
  /-- A worker of a shift. -/
  | work (shift number : Nat)
  /-- A caller of the work queue. -/
  | call (number : Nat)
  /-- A timer of the work queue. -/
  | fire (number : Nat)
  /-- Those who wait until the catalog is filled. -/
  | look
  deriving DecidableEq, Repr

/-! ## Shifts -/

/-- A step of the run of a shift. -/
def runStep (c : Controller) (e : Env) (i : Nat) (s : Shift) : Option (Env × Controller) :=
  match s.phase with
  | .syncing due _ =>
    -- a listing that comes just in time counts
    if c.catalog.synced then some (e, c.serve i)
    else if due ≤ e.now then some (c.giveUp i e)
    else none
  | .draining =>
    if s.informer.state = .ended && s.isIdle then some (e, c.onShift i (·.become (.ended none)))
    else none
  | .leaving =>
    if s.informer.state = .ended then some (e, c.onShift i (·.become (.ended none))) else none
  | .unattended | .serving | .ended _ => none

/-- The step by which the run of a shift obeys the signal. -/
def stopStep (c : Controller) (i : Nat) (s : Shift) : Option Controller :=
  if c.signal.isSettled then
    match s.phase with
    | .syncing _ _ => some ({ c with queue := c.queue.shutDown }.onShift i (·.become .leaving))
    | .serving => some ({ c with queue := c.queue.shutDown }.onShift i (·.become .draining))
    | .unattended | .draining | .leaving | .ended _ => none
  else none

/-- The stream of an informer has ended: it waits, for the shortest time. -/
def streamEnded (c : Controller) (i : Nat) (e : Env) (stream : Nat) : Env × Controller :=
  let (e, c) := c.dropStream e stream
  (e, c.onInformer i fun f => { f with delay := f.base }.rest e.now)

/-- A step of an informer along the source. -/
def informStep (c : Controller) (me : Nat) (e : Env) (i : Nat) (f : Informer) :
    Option (Env × Controller) :=
  match f.state with
  | .starting => if c.signal.value then some (c.endInformer i e) else some (c.askStream i me e)
  | .opened stream => some (c.askListing i me e stream)
  | .listing stream due _ l => if due ≤ e.now then some (e, c.takeListing i stream l) else none
  | .following stream =>
    match (c.streams e).look stream with
    | .change change =>
      let (e, c) := c.onStreams e (·.pop stream)
      some (e, c.takeChange change)
    | .ended => some (c.streamEnded i e stream)
    | .quiet => none
  | .resting due _ => if due ≤ e.now then some (e, c.onInformer i (·.startOver)) else none
  | .stranded | .unlisted _ | .ended => none

/-- The step by which an informer obeys the signal. While it follows a stream, it goes on unless
the value is `true` or none can come; while it rests, any news ends it. -/
def noticeStep (c : Controller) (e : Env) (i : Nat) (f : Informer) : Option (Env × Controller) :=
  match f.state with
  | .following _ =>
    if c.signal.version ≠ f.seen then
      if c.signal.value then some (c.endInformer i e)
      else some (e, c.onInformer i fun f => { f with seen := c.signal.version })
    else if c.signal.dropped then some (c.endInformer i e)
    else none
  -- here even the news that it shall go on ends it
  | .resting _ _ => if c.signal.hasNews f.seen then some (c.endInformer i e) else none
  | _ => none

/-! ## Workers -/

/-- The controller with another state of a worker of a shift. -/
def withWorker (c : Controller) (i j : Nat) (w : Worker) : Controller :=
  c.onShift i fun s => { s with workers := s.workers.set j w }

/-- A worker asks for a key. -/
def askKey (c : Controller) (i j : Nat) (ticket : Option Nat) : Controller :=
  let q := c.queue.greet ticket
  match q.offer with
  | .item key => { c with queue := q.handOut }.withWorker i j (.holding key)
  | .closed => { c with queue := q }.withWorker i j .ended
  | .nothing => { c with queue := q.park }.withWorker i j (.asking (some q.bell.nextTicket))

/-- A step of a worker. -/
def workStep (c : Controller) (me : Nat) (e : Env) (i j : Nat) (w : Worker) :
    Option (Env × Controller) :=
  match w with
  | .asking ticket => if c.queue.bell.admits ticket then some (e, c.askKey i j ticket) else none
  | .holding key =>
    let (e, c, w) := c.process me e key
    some (e, c.withWorker i j w)
  | .releasing key => some (e, { c with queue := c.queue.done key }.withWorker i j (.asking none))
  | .lost _ | .ended => none

/-! ## The queue and the catalog -/

/-- The controller with another state of a caller. -/
def withCaller (c : Controller) (k : Nat) (caller : Caller) : Controller :=
  { c with callers := c.callers.set k caller }

/-- A caller asks for a key. -/
def answerCall (c : Controller) (me : Nat) (e : Env) (k : Nat) (caller : Caller) :
    Env × Controller :=
  let q := c.queue.greet caller.ticket
  match q.offer with
  | .item key =>
    (e.write me (.got caller.name (some key)),
      { c with queue := q.handOut }.withCaller k { caller with isServed := true })
  | .closed =>
    (e.write me (.got caller.name none),
      { c with queue := q }.withCaller k { caller with isServed := true })
  | .nothing =>
    (e, { c with queue := q.park }.withCaller k { caller with ticket := some q.bell.nextTicket })

/-- A step of a caller. -/
def callStep (c : Controller) (me : Nat) (e : Env) (k : Nat) (caller : Caller) :
    Option (Env × Controller) :=
  if !caller.isServed && c.queue.bell.admits caller.ticket then
    some (c.answerCall me e k caller)
  else none

/-- A timer of the work queue goes off when it is due. -/
def fireStep (c : Controller) (now number : Nat) : Option Controller :=
  match c.queue.timers.find? (·.number = number) with
  | some t => if t.due ≤ now then some { c with queue := c.queue.fire t } else none
  | none => none

/-- The first of those who wait learns that the catalog is filled. -/
def lookStep (c : Controller) (me : Nat) (e : Env) : Option (Env × Controller) :=
  match c.onlookers with
  | name :: r =>
    if c.catalog.synced then some (e.write me (.synced name), { c with onlookers := r }) else none
  | [] => none

/-! ## Tasks -/

/-- A step of a task. -/
def step (c : Controller) (me : Nat) (e : Env) : Task → Option (Env × Controller)
  | .run i => c.shifts[i]?.bind (c.runStep e i)
  | .stop i => (c.shifts[i]?.bind (c.stopStep i)).map (e, ·)
  | .inform i => c.shifts[i]?.bind fun s => c.informStep me e i s.informer
  | .notice i => c.shifts[i]?.bind fun s => c.noticeStep e i s.informer
  | .work i j => (c.shifts[i]?.bind (·.workers[j]?)).bind (c.workStep me e i j)
  | .call k => c.callers[k]?.bind (c.callStep me e k)
  | .fire number => (c.fireStep e.now number).map (e, ·)
  | .look => c.lookStep me e

/-- The tasks of the shift with a number. -/
def shiftTasks (i : Nat) (s : Shift) : List Task :=
  [.run i, .stop i, .inform i, .notice i] ++ (List.range s.workers.length).map (.work i)

/-- The tasks of a controller. -/
def tasks (c : Controller) : List Task :=
  (c.shifts.zipIdx.flatMap fun s => shiftTasks s.2 s.1) ++
    (List.range c.callers.length).map .call ++ c.queue.timers.map (.fire ·.number) ++ [.look]

/-- What is due in a shift at some time: when, since when it is waited for, and by which task. -/
def shiftAlarms (i : Nat) (s : Shift) : List (Nat × Nat × Task) :=
  (match s.phase with
    | .syncing due since => [(due, since, .run i)]
    | _ => []) ++
  match s.informer.state with
  | .listing _ due since _ => [(due, since, .inform i)]
  | .resting due since => [(due, since, .inform i)]
  | _ => []

/-- What is due at some time: when, since when it is waited for, and by which task. -/
def alarms (c : Controller) : List (Nat × Nat × Task) :=
  (c.shifts.zipIdx.flatMap fun s => shiftAlarms s.2 s.1) ++
    c.queue.timers.map fun t => (t.due, t.since, .fire t.number)

end Rollout.Controller
