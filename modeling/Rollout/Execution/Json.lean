import Rollout.Execution
import Rollout.Json.Basic

/-!
# Outcomes in JSON

The JSON form of what is kept of an execution.
-/

namespace Rollout

/-- The JSON form of an outcome. -/
def Outcome.toJson (o : Outcome) : Json :=
  .record [("request_id", .text o.requestId), ("fragment_id", .text o.fragmentId),
    ("app_instance_id", .text o.appId), ("succeeded", .bool o.succeeded),
    ("completed_stages", .nat o.completedStages), ("failed_stage", .text? o.failedStage),
    ("error", .text? o.error)]

end Rollout
