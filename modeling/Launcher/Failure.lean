import Launcher.Fault
import Launcher.Host.Fault
import Launcher.Yaml.Fault
/-!
# Failures around a launch

## Main definitions

* `Launcher.Failure` — something invalid, unreadable or malformed, with what was being done.
* `Launcher.Failure.message` — the text shown for it.
-/

namespace Launcher

/-- A failure of the work around a launch. -/
inductive Failure where
  /-- Something is invalid. -/
  | invalid (message : String)
  /-- A file could not be used. -/
  | io (fault : Host.IoFault)
  /-- A document could not be read. -/
  | document (fault : Yaml.Fault)
  /-- Something failed while something else was being done. -/
  | during (action : String) (cause : Failure)
  deriving Repr, DecidableEq

namespace Failure

/-- The text shown for a failure. -/
def message : Failure → String
  | invalid message => "Validation error: " ++ message
  | io fault => "I/O error: " ++ fault.message
  | document fault => "YAML error: " ++ fault.message
  | during action cause => action ++ ": " ++ cause.message

/-- A fault of a process as a failure. -/
def ofFault (fault : Fault) : Failure :=
  invalid fault.message

end Failure

end Launcher
