import Rollout.Fragment
import Rollout.Schema

/-!
# Fragments in JSON

The JSON form of fragments and their parts: a writer, the schema of what is read, and a reader for
values in the plain form of the schema.
-/

namespace Rollout

/-- The value of a dictionary. -/
def Table.toJson (t : Table String String) : Json :=
  .dictionary (t.entries.map fun e => (e.1, .text e.2))

/-- The table that a dictionary gives. -/
def Table.ofJson? (j : Json) : Option (Table String String) := do
  let members ← j.members?
  let entries ← members.mapM fun m => m.2.asText?.map (m.1, ·)
  return .ofList entries

namespace Port

/-- The JSON form of a port. -/
def toJson (p : Port) : Json :=
  .record [("name", .text p.name), ("port", .nat p.number.toNat), ("public", .bool p.isPublic)]

/-- The shape of a port. -/
def schema : Schema :=
  .record [("name", .required, .text), ("port", .required, .natural 65536),
    ("public", .defaulted, .flag)]

/-- The port of a value in plain form. -/
def ofJson? (j : Json) : Option Port := do
  return {
    name := ← (← j.plain? "name").asText?
    number := .ofNat (← (← j.plain? "port").asNat?)
    isPublic := (j.plain? "public" >>= Json.asBool?).getD false }

end Port

namespace Service

/-- The JSON form of a service. -/
def toJson (s : Service) : Json :=
  .record [("service_id", .text s.id), ("name", .text s.name), ("image", .text s.image),
    ("replicas", .nat s.replicas.toNat), ("labels", s.labels.toJson), ("env", s.env.toJson),
    ("exposed_ports", .array (s.ports.map Port.toJson))]

/-- The shape of a service. -/
def schema : Schema :=
  .record [("service_id", .required, .text), ("name", .required, .text),
    ("image", .required, .text), ("replicas", .defaulted, .natural 4294967296),
    ("labels", .defaulted, .dictionary), ("env", .defaulted, .dictionary),
    ("exposed_ports", .defaulted, .list Port.schema)]

/-- The service of a value in plain form. -/
def ofJson? (j : Json) : Option Service := do
  return {
    id := ← (← j.plain? "service_id").asText?
    name := ← (← j.plain? "name").asText?
    image := ← (← j.plain? "image").asText?
    replicas := .ofNat ((j.plain? "replicas" >>= Json.asNat?).getD 1)
    labels := (j.plain? "labels" >>= Table.ofJson?).getD .empty
    env := (j.plain? "env" >>= Table.ofJson?).getD .empty
    ports := ← ((j.plain? "exposed_ports" >>= Json.items?).getD []).mapM Port.ofJson? }

end Service

namespace Stage

/-- The JSON form of a stage. -/
def toJson (s : Stage) : Json :=
  .record [("stage_id", .text s.id), ("services", .array (s.services.map Service.toJson))]

/-- The shape of a stage. -/
def schema : Schema :=
  .record [("stage_id", .required, .text), ("services", .required, .list Service.schema)]

/-- The stage of a value in plain form. -/
def ofJson? (j : Json) : Option Stage := do
  return {
    id := ← (← j.plain? "stage_id").asText?
    services := ← (← (← j.plain? "services").items?).mapM Service.ofJson? }

end Stage

namespace Fragment

/-- The JSON form of a fragment. -/
def toJson (f : Fragment) : Json :=
  .record [("request_id", .text f.requestId), ("fragment_id", .text f.fragmentId),
    ("app_instance_id", .text f.appId), ("stages", .array (f.stages.map Stage.toJson))]

/-- The shape of a fragment. -/
def schema : Schema :=
  .record [("request_id", .required, .text), ("fragment_id", .required, .text),
    ("app_instance_id", .required, .text), ("stages", .required, .list Stage.schema)]

/-- The fragment of a value in plain form. -/
def ofJson? (j : Json) : Option Fragment := do
  return {
    requestId := ← (← j.plain? "request_id").asText?
    fragmentId := ← (← j.plain? "fragment_id").asText?
    appId := ← (← j.plain? "app_instance_id").asText?
    stages := ← (← (← j.plain? "stages").items?).mapM Stage.ofJson? }

end Fragment

/-- Read a fragment from its JSON form. -/
def Fragment.ofText (text : String) : Except Fault Fragment :=
  schema.decode ofJson? text

end Rollout
