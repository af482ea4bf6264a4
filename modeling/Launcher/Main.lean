import Launcher.Session.Tool
/-!
# The command line

Runs the tool on a new machine, to which the launch spec is brought that the command line names.

## Main definitions

* `main` — the program.
-/

open Launcher

/-- A new machine with the launch spec that some words name, if it can be read. -/
def machineFor (words : List String) : IO Host.Machine := do
  match (Cli.Options.ofWords words).toOption.bind Cli.Options.config with
  | none => pure .base
  | some path =>
    match ← (IO.FS.readBinFile path).toBaseIO with
    | .ok bytes => pure (Host.Machine.base.withFile path bytes.toList 0o644)
    | .error _ => pure .base

/-- Runs the tool, writes what it prints and reports, and ends as it does. -/
def main (words : List String) : IO UInt32 := do
  let run := Session.runTool (← machineFor words) words
  (← IO.getStdout).putStr (Text.Utf8.decodeLossy run.output)
  (← IO.getStderr).putStr (Text.Utf8.decodeLossy run.errors)
  pure (UInt32.ofNat run.ending.exitCode)
