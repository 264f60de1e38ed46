import Rollout.Cluster
import Rollout.Duration.Text

/-!
# Failures of control loops

What can go wrong while objects are watched and reconciled, and when an object is created.
-/

namespace Rollout

/-- What went wrong in a control loop or in its store. -/
inductive ControlError
  /-- The first listing took too long. -/
  | syncTimeout (kind : Kind) (timeout : Duration)
  /-- The resource of an object is not tracked. -/
  | unregistered (id : Identity)
  /-- The readiness of an object could not be found out. -/
  | checkFailed (key reason : String)
  /-- The key of a new object is in use. -/
  | alreadyExists (what : String)
  deriving DecidableEq, Repr

/-- The text of a failure. -/
def ControlError.message : ControlError → String
  | syncTimeout kind timeout =>
    "timed out after " ++ timeout.toText ++ " waiting for " ++ kind.label ++ " cache to sync"
  | unregistered id => "resource " ++ id.toText ++ " is not registered yet"
  | checkFailed key reason => "readiness check failed for " ++ key ++ ": " ++ reason
  | alreadyExists what => "object already exists: " ++ what

/-- A conflict as a failure. -/
def Conflict.toError (c : Conflict) : ControlError :=
  .alreadyExists (c.kind.label ++ " " ++ c.key)

end Rollout
