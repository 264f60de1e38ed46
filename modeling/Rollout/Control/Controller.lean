import Rollout.Config
import Rollout.Control.Catalog
import Rollout.Control.Source
import Rollout.Env
import Rollout.Object.Readiness
import Rollout.Signal
import Rollout.WorkQueue

/-!
# Controllers

A controller watches the objects of one kind and keeps the tracker up to date. Its informer follows
the source and adds the key of every object that changed to the work queue; its workers take keys
from the queue and record what the objects say. This module has the state of a controller and what
its parts do at once; `Rollout.Control.Step` puts the parts in motion.
-/

namespace Rollout

/-- Where an informer stands. -/
inductive InformerState
  /-- About to ask for a stream. -/
  | starting
  /-- Waiting for a stream that never comes. -/
  | stranded
  /-- About to ask for a listing, with a stream at hand. -/
  | opened (stream : Nat)
  /-- Waiting for a listing that comes at a certain time, having been asked for at another. -/
  | listing (stream due since : Nat) (l : List Object)
  /-- Waiting for a listing that never comes. -/
  | unlisted (stream : Nat)
  /-- Following its stream. -/
  | following (stream : Nat)
  /-- Waiting until it starts over, since a certain time. -/
  | resting (due since : Nat)
  | ended
  deriving DecidableEq, Repr

/-- The part of a controller that follows the source. -/
structure Informer where
  state : InformerState := .starting
  /-- The wait after a stream has ended. -/
  base : Duration := .ofSeconds 1
  /-- The longest wait. -/
  max : Duration := .ofSeconds 30
  /-- The next wait. -/
  delay : Duration := base
  /-- The version of the signal that it has seen. -/
  seen : Nat := 0
  deriving DecidableEq, Repr

/-- Where a worker stands. -/
inductive Worker
  /-- About to ask for a key, or waiting under a ticket. -/
  | asking (ticket : Option Nat)
  /-- Having been handed a key. -/
  | holding (key : String)
  /-- Done with a key that it still holds. -/
  | releasing (key : String)
  /-- Broken down over a key, which it holds for ever. -/
  | lost (key : String)
  | ended
  deriving DecidableEq, Repr

/-- How far the run of a controller has come. -/
inductive Phase
  /-- Nobody runs it; only the informer may be at work. -/
  | unattended
  /-- Waiting for the first listing until a certain time, since another. -/
  | syncing (due since : Nat)
  /-- At work. -/
  | serving
  /-- Asked to stop, waiting for the informer and the workers. -/
  | draining
  /-- Asked to stop before it served, waiting for the informer. -/
  | leaving
  | ended (e : Option ControlError)
  deriving DecidableEq, Repr

/-- One run of a controller, with an informer and workers of its own. -/
structure Shift where
  informer : Informer := {}
  phase : Phase := .unattended
  workers : List Worker := []
  deriving DecidableEq, Repr

/-- A controller for one kind of objects. Its runs share its catalog and its queue. -/
structure Controller where
  kind : Kind
  source : Source := .cluster
  settings : Settings := {}
  signal : Signal := {}
  catalog : Catalog := {}
  queue : WorkQueue := {}
  /-- Its runs, the earliest first. -/
  shifts : List Shift := []
  /-- Those who ask its queue for one key. -/
  callers : List Caller := []
  /-- How many more times the readiness of an object cannot be found out; `none` is for ever. -/
  outages : Table String (Option Nat) := .empty
  /-- Those who wait until the catalog is filled. -/
  onlookers : List String := []
  deriving DecidableEq, Repr

namespace Informer

/-- The informer in another state. -/
def become (i : Informer) (s : InformerState) : Informer := { i with state := s }

/-- Wait before starting over. -/
def rest (i : Informer) (now : Nat) : Informer := i.become (.resting (i.delay.deadline now) now)

/-- Start over, with a longer wait ahead. -/
def startOver (i : Informer) : Informer :=
  { i with state := .starting, delay := min (i.delay.scale 2) i.max }

/-- The stream that an informer holds. -/
def stream? (i : Informer) : Option Nat :=
  match i.state with
  | .opened s | .listing s _ _ _ | .unlisted s | .following s => some s
  | .starting | .stranded | .resting _ _ | .ended => none

end Informer

namespace Shift

/-- The shift in another phase. -/
def become (s : Shift) (p : Phase) : Shift := { s with phase := p }

/-- Whether every worker has ended or broken down. -/
def isIdle (s : Shift) : Bool :=
  s.workers.all fun
    | .lost _ | .ended => true
    | .asking _ | .holding _ | .releasing _ => false

end Shift

namespace Controller

/-- The controller after a change of the shift with a number. -/
def onShift (c : Controller) (i : Nat) (f : Shift → Shift) : Controller :=
  { c with shifts := c.shifts.modify i f }

/-- The controller after a change of the informer of a shift. -/
def onInformer (c : Controller) (i : Nat) (f : Informer → Informer) : Controller :=
  c.onShift i fun s => { s with informer := f s.informer }

/-- The controller with another state of the informer of a shift. -/
def withInformer (c : Controller) (i : Nat) (s : InformerState) : Controller :=
  c.onInformer i (·.become s)

/-! ## The source -/

/-- The streams of the source. -/
def streams (c : Controller) (e : Env) : Streams :=
  match c.source with
  | .cluster => e.cluster.streams c.kind
  | .script s => s.streams

/-- Change the streams of the source. -/
def onStreams (c : Controller) (e : Env) (f : Streams → Streams) : Env × Controller :=
  match c.source with
  | .cluster => (e.onCluster (·.onStreams c.kind f), c)
  | .script s => (e, { c with source := .script { s with streams := f s.streams } })

/-- Let go of a stream. -/
def dropStream (c : Controller) (e : Env) (stream : Nat) : Env × Controller :=
  c.onStreams e (·.drop stream)

/-- The informer of a shift asks the source for a stream. -/
def askStream (c : Controller) (i me : Nat) (e : Env) : Env × Controller :=
  let e := e.write me .watched
  match c.source with
  | .cluster =>
    (e.onCluster (·.onStreams c.kind Streams.open),
      c.withInformer i (.opened (e.cluster.streams c.kind).fresh))
  | .script s =>
    let reply := s.watchReply
    let s := { s with watches := SourceScript.after s.watches }
    match reply with
    | .open =>
      (e, { c with source := .script { s with streams := s.streams.open } }.withInformer i
        (.opened s.streams.fresh))
    | .closed =>
      (e, { c with source := .script { s with streams := s.streams.openEnded } }.withInformer i
        (.opened s.streams.fresh))
    | .failure => (e, { c with source := .script s }.onInformer i (·.rest e.now))
    | .never => (e, { c with source := .script s }.withInformer i .stranded)

/-- Take in a listing: every key that it touches is added to the queue. -/
def takeListing (c : Controller) (i stream : Nat) (l : List Object) : Controller :=
  { c with
    queue := (c.catalog.touched l).foldl WorkQueue.add c.queue
    catalog := (c.catalog.replace l).markSynced }.withInformer i (.following stream)

/-- The informer of a shift asks the source for a listing, with a stream at hand. -/
def askListing (c : Controller) (i me : Nat) (e : Env) (stream : Nat) : Env × Controller :=
  let e := e.write me .listed
  match c.source with
  | .cluster => (e, c.takeListing i stream (e.cluster.store c.kind).list)
  | .script s =>
    let reply := s.listReply
    let c := { c with source := .script { s with lists := SourceScript.after s.lists } }
    match reply with
    | .objects delay l =>
      if delay = 0 then (e, c.takeListing i stream l)
      else (e, c.withInformer i (.listing stream (e.now + delay) e.now l))
    | .failure =>
      -- a stream without its listing is of no use
      let (e, c) := c.dropStream e stream
      (e, c.onInformer i (·.rest e.now))
    | .never => (e, c.withInformer i (.unlisted stream))

/-- Take in a change: the catalog follows and the key is added to the queue. -/
def takeChange (c : Controller) (change : Change) : Controller :=
  let catalog := match change with
    | .added o | .modified o => c.catalog.upsert o
    | .deleted o => c.catalog.remove o.key
  { c with catalog := catalog, queue := c.queue.add change.object.key }

/-- The informer of a shift ends and lets go of its stream. -/
def endInformer (c : Controller) (i : Nat) (e : Env) : Env × Controller :=
  let ended := c.withInformer i .ended
  match c.shifts[i]?.bind (·.informer.stream?) with
  | some stream => ended.dropStream e stream
  | none => (e, ended)

/-! ## Reconciling -/

/-- Whether the readiness of the object under a key cannot be found out now. -/
def isOut (c : Controller) (key : String) : Bool :=
  match c.outages.get? key with
  | some none => true
  | some (some n) => 0 < n
  | none => false

/-- An outage was met: a counted one has come nearer to its end. -/
def passOutage (c : Controller) (key : String) : Controller :=
  match c.outages.get? key with
  | some (some (n + 1)) => { c with outages := c.outages.insert key (some n) }
  | _ => c

/-- Record what an object says about its resource. -/
def recordReadiness (c : Controller) (e : Env) (id : Identity) :
    Readiness → Env × Option ControlError
  | .notReady => (e, none)
  | .status s info endpoint =>
    if e.tracker.isTracked id then (e.onTracker (·.report id s info endpoint), none)
    else (e, if c.settings.retryUnregistered then some (.unregistered id) else none)

/-- Bring the tracker up to date with the copy of the object under a key. -/
def reconcile (c : Controller) (me : Nat) (e : Env) (key : String) :
    Env × Controller × Option ControlError :=
  match c.catalog.get? key with
  | none => (e, c, none)
  | some o =>
    match o.identity? with
    | none => (e, c, none)
    | some id =>
      if c.isOut o.key then
        (e.write me (.checked o.key true), c.passOutage o.key,
          some (.checkFailed o.key "platform unreachable"))
      else
        let (e, result) := c.recordReadiness (e.write me (.checked o.key false)) id o.readiness
        (e, c, result)

/-- Whether a failure is reported when its key is given up: a resource that is not tracked is no
fault. -/
def isReported : ControlError → Bool
  | .unregistered _ => false
  | _ => true

/-- Settle a key after it was reconciled. After a success its failures are forgotten; after a
failure it is tried again later, or given up when it has failed too often. -/
def settleKey (c : Controller) (me : Nat) (e : Env) (key : String) :
    Option ControlError → Env × Controller
  | none => (e, { c with queue := c.queue.forget key })
  | some err =>
    if c.queue.backoff.count key + 1 < c.settings.maxRetries then
      (e, { c with queue := c.queue.retry e.now key })
    else
      (if isReported err then e.write me (.reported key c.kind err) else e,
        { c with queue := c.queue.forget key })

/-- Whether a worker lives through settling a key: it breaks down over a retry whose delay the clock
cannot count. -/
def survives (c : Controller) (now : Nat) (key : String) (result : Option ControlError) : Bool :=
  result.isNone || c.settings.maxRetries ≤ c.queue.backoff.count key + 1 || c.queue.canRetry now key

/-- Reconcile and settle a key, and tell where that leaves the worker who holds it. -/
def process (c : Controller) (me : Nat) (e : Env) (key : String) : Env × Controller × Worker :=
  let (e, c, result) := c.reconcile me e key
  let worker := if c.survives e.now key result then Worker.releasing key else .lost key
  let (e, c) := c.settleKey me e key result
  (e, c, worker)

/-! ## Runs -/

/-- A shift gives up because the first listing took too long. -/
def giveUp (c : Controller) (i : Nat) (e : Env) : Env × Controller :=
  let (e, c) := c.endInformer i e
  let failure := ControlError.syncTimeout c.kind c.settings.syncTimeout
  (e, { c with queue := c.queue.shutDown }.onShift i (·.become (.ended (some failure))))

/-- Put the workers of a shift to work. -/
def serve (c : Controller) (i : Nat) : Controller :=
  c.onShift i fun s =>
    { s with phase := .serving, workers := List.replicate c.settings.workers (.asking none) }

/-- A controller that was not run yet. -/
def dormant (kind : Kind) (settings : Settings) : Controller :=
  let backoff : Backoff := { base := settings.backoffBase, max := settings.backoffMax }
  { kind := kind, settings := settings, queue := { backoff := backoff } }

/-- Run a controller: the time for the first listing begins. -/
def start (c : Controller) (now : Nat) : Controller :=
  { c with
    shifts := c.shifts ++ [{
      informer := { seen := c.signal.version }
      phase := .syncing (c.settings.syncTimeout.deadline now) now }] }

end Controller

end Rollout
