import Rollout.Api.Percent

/-!
# Routes

The places of the interface. A path is cut at its slashes before anything in it is decoded; a part
of a path that stands for a text may be empty, but not at the end.
-/

namespace Rollout.Api

/-- A place of the interface, with the parts of the path that stand for texts, not yet decoded. -/
inductive Route
  | fragments
  | resources
  | resource (app service uid : String)
  | status (app : String)
  deriving DecidableEq, Repr

/-- What can be done at a place. -/
inductive Method
  | get
  | post
  | delete
  deriving DecidableEq, Repr

namespace Route

/-- The place that the parts of a path name. -/
def ofParts? : List String → Option Route
  | ["", "api", "v1", "fragments"] => some .fragments
  | ["", "api", "v1", "resources"] => some .resources
  | ["", "api", "v1", "resources", app, service, uid] =>
    if uid.isEmpty then none else some (.resource app service uid)
  | ["", "api", "v1", "apps", app, "status"] => some (.status app)
  | _ => none

/-- The place that a path names. -/
def ofPath? (path : String) : Option Route :=
  ofParts? ((path.toList.splitOn '/').map String.ofList)

/-- What can be done at a place. -/
def methods : Route → List Method
  | fragments => [.get, .post]
  | resources => [.get]
  | resource _ _ _ => [.delete]
  | status _ => [.get]

end Route

/-- What a word asks to be done. A `HEAD` is a `GET` of which only the status counts. -/
def Method.ofWord? : String → Option Method
  | "GET" => some .get
  | "HEAD" => some .get
  | "POST" => some .post
  | "DELETE" => some .delete
  | _ => none

end Rollout.Api
