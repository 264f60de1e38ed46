import Rollout.Json.Basic
import Rollout.Tracker

/-!
# Summaries in JSON

The JSON form of how far the resources of an application instance have come.
-/

namespace Rollout

/-- The JSON form of a summary. -/
def Summary.toJson (s : Summary) : Json :=
  .record [("app_instance_id", .text s.app), ("total", .nat s.total), ("pending", .nat s.pending),
    ("deploying", .nat s.deploying), ("running", .nat s.running), ("degraded", .nat s.degraded),
    ("error", .nat s.error), ("converged", .bool s.converged)]

end Rollout
