import Rollout.Env

/-!
# Routines

A routine is something to be carried out over time. It asks its surroundings for one thing after the
other and goes on with each reply; between two waits nobody else comes in. What a routine is and how
it is carried out are kept apart, so that what a routine asks for can be told without an
environment.
-/

namespace Rollout

/-- What a routine can ask for. -/
inductive Command
  | create (o : Object)
  | delete (kind : Kind) (key : String)
  | register (id : Identity) (stage : String)
  | report (id : Identity) (status : Status) (info : String) (endpoint : Option String)
  /-- Some milliseconds. -/
  | wait (millis : Nat)
  /-- An entry of the journal. -/
  | note (n : Note)
  deriving DecidableEq, Repr

namespace Command

/-- What the reply to a command is. -/
abbrev Reply : Command → Type
  | create _ => Except Conflict Object
  | _ => Unit

/-- How long a command takes. -/
def pause : Command → Nat
  | wait millis => millis
  | _ => 0

/-- Whether a command registers a resource. -/
def isRegistration : Command → Bool
  | register _ _ => true
  | _ => false

/-- Carry out a command in the name of a process. -/
def perform (me : Nat) (e : Env) : (c : Command) → c.Reply × Env
  | create o =>
    match e.cluster.create o with
    | .ok (o, cluster) => (.ok o, { e with cluster := cluster })
    | .error conflict => (.error conflict, e)
  | delete kind key => ((), e.onCluster (·.delete kind key))
  | register id stage => ((), e.onTracker (·.register id stage))
  | report id status info endpoint => ((), e.onTracker (·.report id status info endpoint))
  | wait _ => ((), e)
  | note n => ((), e.write me n)

end Command

/-- Something to be carried out, with what comes out of it. -/
inductive Routine (α : Type) where
  | done (a : α)
  | ask (c : Command) (next : c.Reply → Routine α)

/-- How far a routine comes at once. -/
inductive Standing (α : Type) where
  | done (a : α)
  /-- It goes on after some milliseconds. -/
  | waiting (millis : Nat) (rest : Routine α)

namespace Routine

variable {α β : Type}

/-- Carry out a routine and then another one. -/
def bind : Routine α → (α → Routine β) → Routine β
  | done a, f => f a
  | ask c next, f => ask c fun r => (next r).bind f

instance : Monad Routine where
  pure := done
  bind := bind

/-- Ask for one thing. -/
def command (c : Command) : Routine c.Reply := ask c done

/-- Put something down in the journal. -/
def note (n : Note) : Routine Unit := command (.note n)

/-- Carry out a routine and count its registrations on top of `n`. -/
def counting (n : Nat) : Routine α → Routine (α × Nat)
  | done a => done (a, n)
  | ask c next => ask c fun r => (next r).counting (if c.isRegistration then n + 1 else n)

/-- Carry out a routine as far as it comes without waiting. -/
def proceed (me : Nat) (e : Env) : Routine α → Standing α × Env
  | done a => (.done a, e)
  | ask c next =>
    let reply := c.perform me e
    if c.pause = 0 then (next reply.1).proceed me reply.2
    else (.waiting c.pause (next reply.1), reply.2)

/-- Carry out a routine as a whole, passing over its waits. -/
def run (me : Nat) (e : Env) : Routine α → α × Env
  | done a => (a, e)
  | ask c next =>
    let reply := c.perform me e
    (next reply.1).run me reply.2

end Routine

end Rollout
