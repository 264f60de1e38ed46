import Rollout.Duration.Text

/-!
# Configuration

The settings of a deployment manager, each with a default, and their check. Durations are kept as
they were written until a part needs them, so `Config.check` reads all of them once; what it accepts
can no longer fail when the parts are built (`Settings.ofConfig`).
-/

namespace Rollout

namespace Config

/-- Where requests are received. -/
structure Server where
  port : UInt16 := 5200
  deriving DecidableEq, Repr

/-- The cluster that is worked on. -/
structure Cluster where
  /-- The namespace that is watched. -/
  space : String := "default"
  /-- Whether the cluster is the one inside the process. -/
  isLocal : Bool := true
  /-- How long the local platform takes until an object is ready. -/
  readyDelay : String := "1s"
  deriving DecidableEq, Repr

/-- The control loops. -/
structure Reconcile where
  /-- Workers for each kind of object. -/
  workers : Nat := 1
  /-- Failures in a row after which a key is dropped. -/
  maxRetries : Nat := 5
  /-- How long a control loop waits for its first listing. -/
  syncTimeout : String := "30s"
  /-- The delay before the first retry of a key. -/
  backoffBase : String := "5ms"
  /-- The longest delay before a retry. -/
  backoffMax : String := "1000s"
  /-- Whether keys of resources that are not tracked yet are tried again. -/
  retryUnregistered : Bool := true
  deriving DecidableEq, Repr

/-- The executor of fragments. -/
structure Executor where
  /-- How many outcomes are kept. -/
  historySize : Nat := 100
  deriving DecidableEq, Repr

end Config

/-- The settings of a deployment manager. -/
structure Config where
  server : Config.Server := {}
  cluster : Config.Cluster := {}
  reconcile : Config.Reconcile := {}
  executor : Config.Executor := {}
  deriving DecidableEq, Repr

namespace Config

/-- What is wrong with a configuration. -/
inductive Flaw
  | blankSpace
  | noWorkers
  | noRetries
  | baseAboveMax
  /-- The text in a field is no duration. -/
  | duration (field value : String)
  deriving DecidableEq, Repr

/-- The text of a flaw. -/
def Flaw.message : Flaw → String
  | blankSpace => "invalid configuration: cluster.namespace must not be empty"
  | noWorkers => "invalid configuration: reconcile.threadiness must be at least 1"
  | noRetries => "invalid configuration: reconcile.max_retries must be at least 1"
  | baseAboveMax => "invalid configuration: reconcile.backoff_base exceeds reconcile.backoff_max"
  | duration field value => "invalid duration for " ++ field ++ ": " ++ value

/-- The duration that a field spells. -/
def durationIn (field value : String) : Except Flaw Duration :=
  match Duration.ofText? value with
  | some d => .ok d
  | none => .error (.duration field value)

/-- How long the local platform takes until an object is ready. -/
def Cluster.readReadyDelay (c : Cluster) : Except Flaw Duration :=
  durationIn "cluster.ready_delay" c.readyDelay

/-- How long a control loop waits for its first listing. -/
def Reconcile.readSyncTimeout (r : Reconcile) : Except Flaw Duration :=
  durationIn "reconcile.cache_sync_timeout" r.syncTimeout

/-- The delay before the first retry of a key. -/
def Reconcile.readBackoffBase (r : Reconcile) : Except Flaw Duration :=
  durationIn "reconcile.backoff_base" r.backoffBase

/-- The longest delay before a retry. -/
def Reconcile.readBackoffMax (r : Reconcile) : Except Flaw Duration :=
  durationIn "reconcile.backoff_max" r.backoffMax

/-- Check a configuration and stop at its first flaw. -/
def check (c : Config) : Except Flaw Unit := do
  if Text.allBlank c.cluster.space then throw .blankSpace
  if c.reconcile.workers = 0 then throw .noWorkers
  if c.reconcile.maxRetries = 0 then throw .noRetries
  let base ← c.reconcile.readBackoffBase
  let max ← c.reconcile.readBackoffMax
  if max < base then throw .baseAboveMax
  let _ ← c.reconcile.readSyncTimeout
  let _ ← c.cluster.readReadyDelay

end Config

/-- What a control loop is told, with all durations read. -/
structure Settings where
  /-- How many workers there are. -/
  workers : Nat := 1
  /-- How many attempts a key gets until it is dropped. -/
  maxRetries : Nat := 5
  /-- How long the first listing may take. -/
  syncTimeout : Duration := .ofSeconds 30
  /-- The delay before the first retry of a key. -/
  backoffBase : Duration := .ofMillis 5
  /-- The longest delay before a retry. -/
  backoffMax : Duration := .ofSeconds 1000
  /-- Whether keys of resources that are not tracked yet are tried again. -/
  retryUnregistered : Bool := true
  deriving DecidableEq, Repr

/-- The settings that a configuration asks for, at least one worker and one attempt. -/
def Settings.ofConfig (r : Config.Reconcile) : Except Config.Flaw Settings := do
  return {
    workers := max r.workers 1
    maxRetries := max r.maxRetries 1
    syncTimeout := ← r.readSyncTimeout
    backoffBase := ← r.readBackoffBase
    backoffMax := ← r.readBackoffMax
    retryUnregistered := r.retryUnregistered }

end Rollout
