import Launcher.Cli.Tool
import Launcher.Host.Machine.Base
import Launcher.Host.Machine.Clock
/-!
# The tool on a machine

## Main definitions

* `Launcher.Session.runTool` — what the command line tool does on a machine.
-/

namespace Launcher.Session

open Host (Machine)

/-- What a run of the tool leaves behind. -/
structure ToolRun where
  ending : Cli.Ending
  /-- The bytes that the tool and the processes it has started have written to standard output. -/
  output : List UInt8
  /-- The bytes that they have written to standard error, and the report of a failure behind them. -/
  errors : List UInt8
  /-- Everything below the directory in which the tool ran. -/
  listing : List (String × Option (List UInt8))

/-- Runs the tool with some words. -/
def runTool (m : Machine) (words : List String) : ToolRun :=
  let (stdout, stderr, m) := m.withOutput
  let (ending, m) := (Cli.runWords words).play Machine.answer m
  let report := (ending.report?.map fun text => Text.Utf8.encode (text ++ "\n")).getD []
  { ending
    output := m.files.volume.bytes stdout
    errors := m.files.volume.bytes stderr ++ report
    listing := m.files.volume.listing m.here }

end Launcher.Session
