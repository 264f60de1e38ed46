import Rollout.Api.MediaType
import Rollout.Api.Query
import Rollout.Api.Route
import Rollout.Api.Target
import Rollout.Execution.Executor
import Rollout.Execution.Json
import Rollout.Fragment.Json
import Rollout.Resource.Json
import Rollout.Tracker.Json

/-!
# The interface for controlling parties

Fragments are submitted to the request queue of the executor, and everything that is asked about
resources is read off the tracker. `Api.handle` says what a request does and how it is answered: of
all requests only an accepted submission and the removal of a tracked resource change anything.
-/

namespace Rollout.Api

/-- A request. -/
structure Request where
  method : String
  /-- Where: a path, with the query if there is one. -/
  target : String
  contentType : Option String := none
  body : String := ""
  deriving DecidableEq, Repr

/-- An answer: a status, and a value if the answer has one. -/
structure Reply where
  status : Nat
  body : Option Json := none
  deriving Repr

namespace Reply

/-- An answer that gives what was asked for. -/
def data (status : Nat) (j : Json) : Reply :=
  ⟨status, some (.record [("success", .bool true), ("data", j)])⟩

/-- An answer that refuses and says why. -/
def refusal (status : Nat) (message : String) : Reply :=
  ⟨status, some (.record [("success", .bool false), ("error", .text message)])⟩

end Reply

/-- The status for a body that no fragment can be read from. -/
def faultStatus : Fault → Nat
  | .malformed => 400
  | .unsuitable => 422

/-- The status for a fragment that does not enter the queue. -/
def refusalStatus : Refusal → Nat
  | .malformed _ => 400
  | .closed => 503

/-- The greatest number of bytes in a body. -/
def bodyLimit : Nat := 2097152

/-- What requests are about. -/
structure State where
  executor : Executor
  tracker : Tracker

namespace State

/-- Submit a fragment. -/
def submit (s : State) (r : Request) : Reply × State :=
  if !(r.contentType.any MediaType.acceptsJson) then (⟨415, none⟩, s)
  else if bodyLimit < r.body.utf8ByteSize then (⟨413, none⟩, s)
  else
    match Fragment.ofText r.body with
    | .error fault => (⟨faultStatus fault, none⟩, s)
    | .ok f =>
      match s.executor.requests.push f with
      | .error refusal => (.refusal (refusalStatus refusal) refusal.message, s)
      | .ok q =>
        (.data 202 (.record
            [("request_id", .text f.requestId), ("queued", .nat q.requests.length)]),
          { s with executor := { s.executor with requests := q } })

/-- The length of the queue and the latest outcomes. -/
def listFragments (s : State) : Reply :=
  .data 200 (.record [("queued", .nat s.executor.requests.requests.length),
    ("outcomes", .array (s.executor.history.map Outcome.toJson))])

/-- The tracked resources, those of one application instance if the query names one. -/
def listResources (s : State) (query : String) : Reply :=
  match Query.values query "app_instance_id" with
  | [] => .data 200 (.array (s.tracker.snapshot.map Resource.toJson))
  | [app] => .data 200 (.array ((s.tracker.ofApp app).map Resource.toJson))
  | _ => ⟨400, none⟩

/-- Stop tracking a resource. -/
def removeResource (s : State) (app service uid : String) : Reply × State :=
  match Percent.text? app, Percent.text? service, Percent.text? uid with
  | some app, some service, some uid =>
    let id : Identity := ⟨app, service, uid⟩
    match s.tracker.get? id with
    | some record =>
      (.data 200 (Resource.toJson ⟨id, record⟩), { s with tracker := s.tracker.remove id })
    | none => (.refusal 404 "resource not tracked", s)
  | _, _, _ => (⟨400, none⟩, s)

/-- How far the resources of an application instance have come. -/
def appStatus (s : State) (app : String) : Reply :=
  match Percent.text? app with
  | some app =>
    let summary := s.tracker.summary app
    if summary.total = 0 then .refusal 404 "application instance not tracked"
    else .data 200 summary.toJson
  | none => ⟨400, none⟩

/-- Do at a place what is asked for. -/
def handleAt (s : State) (r : Request) (query : String) : Route → Method → Reply × State
  | .fragments, .post => s.submit r
  | .fragments, .get => (s.listFragments, s)
  | .resources, .get => (s.listResources query, s)
  | .resource app service uid, .delete => s.removeResource app service uid
  | .status app, .get => (s.appStatus app, s)
  | _, _ => (⟨405, none⟩, s)

/-- What a request does, and how it is answered. -/
def handle (s : State) (r : Request) : Reply × State :=
  match Route.ofPath? (Target.path r.target) with
  | none => (⟨404, none⟩, s)
  | some route =>
    match Method.ofWord? r.method with
    | none => (⟨405, none⟩, s)
    | some method =>
      let (reply, s) := s.handleAt r (Target.query r.target) route method
      -- the answer to a `HEAD` has no body
      (if r.method = "HEAD" then { reply with body := none } else reply, s)

end State

end Rollout.Api
