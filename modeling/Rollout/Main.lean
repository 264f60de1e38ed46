import Rollout.CommandLine
import Rollout.Daemon
import Rollout.Plane.Api

/-!
# The program

Runs a daemon and answers requests from standard input, one a line, while time goes on. At the end
of the input the daemon is stopped.
-/

open Rollout

/-- The configuration from a file, or the default one. -/
def loadConfig (file : Option String) : IO (Except String Config) := do
  match file with
  | none => return .ok {}
  | some file =>
    let content ← (some <$> IO.FS.readBinFile file) <|> pure none
    return (Config.ofBytes content).mapError (CommandLine.loadMessage file)

/-- Answer requests until the input ends; `started` is when the daemon was started. -/
partial def serve (input output : IO.FS.Stream) (started : Nat) (p : Plane) : IO Plane := do
  let line ← input.getLine
  if line.isEmpty then return p
  let now ← IO.monoMsNow
  let p := p.advance (now - started - p.env.now)
  let (reply, p) := p.handle Daemon.executor (CommandLine.request line)
  output.putStrLn (CommandLine.answerLine reply)
  output.flush
  serve input output started p.settle

/-- Run a daemon with a configuration. -/
def runDaemon (c : Config) : IO UInt32 := do
  match Daemon.assemble c with
  | .error e =>
    IO.eprintln e.message
    return 1
  | .ok p =>
    match Daemon.start c p with
    | .error flaw =>
      IO.eprintln flaw.message
      return 1
    | .ok (p, background) =>
      let p ← serve (← IO.getStdin) (← IO.getStdout) (← IO.monoMsNow) p.settle
      let stopped := (Daemon.stop p background).settle
      return if stopped.isSettled then 0 else 1

/-- The program. -/
def main (args : List String) : IO UInt32 := do
  match CommandLine.options? args with
  | none =>
    IO.eprintln CommandLine.usage
    return 2
  | some options =>
    match ← loadConfig options.config with
    | .error message =>
      IO.eprintln message
      return 1
    | .ok c => runDaemon c
