import Launcher.Spec.Basic
import Launcher.Yaml.Writer
/-!
# Writing launch specs

## Main definitions

* `Launcher.Spec.toValue`, and `toValue` of each part of a launch spec — what a document is
  written from.
* `Launcher.Spec.render` — the document of a launch spec.
-/

namespace Launcher

open Yaml (Value)

/-- A mode is written by its name. -/
def Completion.toValue (c : Completion) : Value :=
  .text c.name

/-- A status is written as a variant that holds the number. -/
def ExitStatus.toValue : ExitStatus → Value
  | code value => .variant "Code" value
  | signaled signal => .variant "Signaled" signal

/-- A mode is written by its name. -/
def StreamMode.toValue (m : StreamMode) : Value :=
  .text m.name

/-- A stream is written as the name of its mode, or as a mapping for a file. -/
def StreamSpec.toValue : StreamSpec → Value
  | mode m => m.toValue
  | file path append => .mapping [("file", .text path), ("append", .bool append)]

/-- The flags are written under their names. -/
def ConsoleSpec.toValue (c : ConsoleSpec) : Value :=
  .mapping
    [ ("new_console", .bool c.newConsole), ("no_window", .bool c.noWindow),
      ("detached", .bool c.detached), ("new_process_group", .bool c.newProcessGroup),
      ("hide_window", .bool c.hideWindow) ]

/-- The options are written under their names. -/
def JobOptions.toValue (j : JobOptions) : Value :=
  .mapping [("kill_on_close", .bool j.killOnClose)]

namespace Spec

/-- A launch spec is written with all its entries, but for a working directory and a job that are
not there. -/
def toValue (s : Spec) : Value :=
  let optional (name : String) (value : Option Value) : List (String × Value) :=
    (value.map fun v => (name, v)).toList
  .mapping
    (("command_line", .text s.commandLine) ::
      optional "working_directory" (s.workingDirectory.map .text) ++
      [ ("stdin", s.stdin.toValue), ("stdout", s.stdout.toValue), ("stderr", s.stderr.toValue),
        ("inherit_handles", .bool s.inheritHandles), ("console", s.console.toValue),
        ("completion", s.completion.toValue) ] ++
      optional "job" (s.job.map JobOptions.toValue))

/-- The document of a launch spec. -/
def render (s : Spec) : String :=
  s.toValue.render

end Spec

end Launcher
