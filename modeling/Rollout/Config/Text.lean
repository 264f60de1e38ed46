import Rollout.Config
import Rollout.Schema
import Rollout.Toml.Document

/-!
# The written forms of a configuration

A configuration is read from a TOML document, or from a JSON value of the same shape, and written as
JSON. Every field may be missing.
-/

namespace Rollout.Config

namespace Server

/-- The JSON form of the section. -/
def toJson (s : Server) : Json := .record [("port", .nat s.port.toNat)]

/-- The shape of the section. -/
def schema : Schema := .record [("port", .defaulted, .natural 65536)]

/-- The section of a value in plain form. -/
def ofJson (j : Json) : Server :=
  { port := .ofNat ((j.plain? "port" >>= Json.asNat?).getD 5200) }

end Server

namespace Cluster

/-- The JSON form of the section. -/
def toJson (c : Cluster) : Json :=
  .record [("namespace", .text c.space), ("local", .bool c.isLocal),
    ("ready_delay", .text c.readyDelay)]

/-- The shape of the section. -/
def schema : Schema :=
  .record [("namespace", .defaulted, .text), ("local", .defaulted, .flag),
    ("ready_delay", .defaulted, .text)]

/-- The section of a value in plain form. -/
def ofJson (j : Json) : Cluster :=
  let d : Cluster := {}
  { space := (j.plain? "namespace" >>= Json.asText?).getD d.space
    isLocal := (j.plain? "local" >>= Json.asBool?).getD d.isLocal
    readyDelay := (j.plain? "ready_delay" >>= Json.asText?).getD d.readyDelay }

end Cluster

namespace Reconcile

/-- The JSON form of the section. -/
def toJson (r : Reconcile) : Json :=
  .record [("threadiness", .nat r.workers), ("max_retries", .nat r.maxRetries),
    ("cache_sync_timeout", .text r.syncTimeout), ("backoff_base", .text r.backoffBase),
    ("backoff_max", .text r.backoffMax), ("requeue_unregistered", .bool r.retryUnregistered)]

/-- The shape of the section. -/
def schema : Schema :=
  .record [("threadiness", .defaulted, .natural Text.Numeral.wordLimit),
    ("max_retries", .defaulted, .natural 4294967296), ("cache_sync_timeout", .defaulted, .text),
    ("backoff_base", .defaulted, .text), ("backoff_max", .defaulted, .text),
    ("requeue_unregistered", .defaulted, .flag)]

/-- The section of a value in plain form. -/
def ofJson (j : Json) : Reconcile :=
  let d : Reconcile := {}
  { workers := (j.plain? "threadiness" >>= Json.asNat?).getD d.workers
    maxRetries := (j.plain? "max_retries" >>= Json.asNat?).getD d.maxRetries
    syncTimeout := (j.plain? "cache_sync_timeout" >>= Json.asText?).getD d.syncTimeout
    backoffBase := (j.plain? "backoff_base" >>= Json.asText?).getD d.backoffBase
    backoffMax := (j.plain? "backoff_max" >>= Json.asText?).getD d.backoffMax
    retryUnregistered :=
      (j.plain? "requeue_unregistered" >>= Json.asBool?).getD d.retryUnregistered }

end Reconcile

namespace Executor

/-- The JSON form of the section. -/
def toJson (e : Executor) : Json := .record [("history_size", .nat e.historySize)]

/-- The shape of the section. -/
def schema : Schema := .record [("history_size", .defaulted, .natural Text.Numeral.wordLimit)]

/-- The section of a value in plain form. -/
def ofJson (j : Json) : Executor :=
  { historySize := (j.plain? "history_size" >>= Json.asNat?).getD 100 }

end Executor

/-- The JSON form of a configuration. -/
def toJson (c : Config) : Json :=
  .record [("server", c.server.toJson), ("cluster", c.cluster.toJson),
    ("reconcile", c.reconcile.toJson), ("executor", c.executor.toJson)]

/-- The shape of a configuration. -/
def schema : Schema :=
  .record [("server", .defaulted, Server.schema), ("cluster", .defaulted, Cluster.schema),
    ("reconcile", .defaulted, Reconcile.schema), ("executor", .defaulted, Executor.schema)]

/-- The configuration of a value in plain form. -/
def ofJson (j : Json) : Config :=
  { server := ((j.plain? "server").map Server.ofJson).getD {}
    cluster := ((j.plain? "cluster").map Cluster.ofJson).getD {}
    reconcile := ((j.plain? "reconcile").map Reconcile.ofJson).getD {}
    executor := ((j.plain? "executor").map Executor.ofJson).getD {} }

/-- Why no configuration could be loaded. -/
inductive LoadError
  /-- There is no such file, or it holds no text. -/
  | unreadable
  /-- The text is no TOML document of the right shape. -/
  | unparsable
  /-- The configuration has a flaw. -/
  | flawed (flaw : Flaw)
  deriving DecidableEq, Repr

/-- Load a configuration from a TOML document. -/
def ofToml (text : String) : Except LoadError Config :=
  match Toml.parse? text with
  | none => .error .unparsable
  | some v =>
    match schema.conform .passed v.toJson with
    | .error _ => .error .unparsable
    | .ok j =>
      match (ofJson j).check with
      | .ok _ => .ok (ofJson j)
      | .error flaw => .error (.flawed flaw)

/-- Load a configuration from the content of a file, if there is such a file. -/
def ofBytes (content : Option ByteArray) : Except LoadError Config :=
  match content >>= String.fromUTF8? with
  | none => .error .unreadable
  | some text => ofToml text

end Rollout.Config
