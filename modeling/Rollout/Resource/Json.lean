import Rollout.Fragment.Json
import Rollout.Resource

/-!
# Resources in JSON

The JSON form of identities, statuses and resources.
-/

namespace Rollout

namespace Identity

/-- The JSON form of an identity. -/
def toJson (i : Identity) : Json :=
  .record [("app_instance_id", .text i.app), ("service_id", .text i.service), ("uid", .text i.uid)]

/-- The shape of an identity. -/
def schema : Schema :=
  .record [("app_instance_id", .required, .text), ("service_id", .required, .text),
    ("uid", .required, .text)]

/-- The identity of a value in plain form. -/
def ofJson? (j : Json) : Option Identity := do
  return {
    app := ← (← j.plain? "app_instance_id").asText?
    service := ← (← j.plain? "service_id").asText?
    uid := ← (← j.plain? "uid").asText? }

end Identity

namespace Status

/-- The JSON form of a status. -/
def toJson (s : Status) : Json := .text s.label

/-- The shape of a status. -/
def schema : Schema := .label (all.map label)

/-- The status of a value in plain form. -/
def ofJson? (j : Json) : Option Status := j.asText? >>= ofLabel?

end Status

namespace Resource

/-- The JSON form of a resource. -/
def toJson (r : Resource) : Json :=
  .record [("identity", r.identity.toJson), ("stage_id", .text r.record.stage),
    ("status", r.record.status.toJson), ("info", .text r.record.info),
    ("endpoint", .text? r.record.endpoint)]

/-- The shape of a resource. -/
def schema : Schema :=
  .record [("identity", .required, Identity.schema), ("stage_id", .required, .text),
    ("status", .required, Status.schema), ("info", .required, .text),
    ("endpoint", .nullable, .optional .text)]

/-- The resource of a value in plain form. -/
def ofJson? (j : Json) : Option Resource := do
  return {
    identity := ← Identity.ofJson? (← j.plain? "identity")
    record := {
      stage := ← (← j.plain? "stage_id").asText?
      status := ← Status.ofJson? (← j.plain? "status")
      info := ← (← j.plain? "info").asText?
      endpoint := j.plain? "endpoint" >>= Json.asText? } }

end Resource

end Rollout
