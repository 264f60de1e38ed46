import Rollout.Api
import Rollout.Config.Text
import Rollout.Json.Printer

/-!
# The command line

What the program is asked to do, and the lines by which it is talked to while it runs.
-/

namespace Rollout.CommandLine

/-- What the program is asked to do: run a daemon, configured by a file if one is named. -/
structure Options where
  config : Option String := none
  deriving DecidableEq, Repr

/-- How the program is called. -/
def usage : String := "usage: rollout run [--config FILE]"

/-- The options that arguments stand for. -/
def options? : List String → Option Options
  | ["run"] => some {}
  | ["run", "--config", file] => some { config := some file }
  | _ => none

/-- Why a configuration was not loaded. -/
def loadMessage (file : String) : Config.LoadError → String
  | .unreadable => "failed to load " ++ file ++ ": it cannot be read"
  | .unparsable => "failed to load " ++ file ++ ": it is no configuration"
  | .flawed flaw => "failed to load " ++ file ++ ": " ++ flaw.message

/-- The first word of a line and what follows the blank behind it. -/
def cut (cs : List Char) : List Char × List Char :=
  (cs.takeWhile (· ≠ ' '), (cs.dropWhile (· ≠ ' ')).drop 1)

/-- The request that a line stands for: a method, a target, and a body in JSON. -/
def request (line : String) : Api.Request :=
  let (method, rest) := cut (line.toList.filter (· ≠ '\n'))
  let (target, body) := cut rest
  { method := String.ofList method
    target := String.ofList target
    contentType := some "application/json"
    body := String.ofList body }

/-- The line that answers a request. -/
def answerLine (r : Api.Reply) : String :=
  match r.body with
  | none => toString r.status
  | some j => toString r.status ++ " " ++ j.render

end Rollout.CommandLine
