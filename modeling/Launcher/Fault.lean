import Launcher.Host.Errno
/-!
# What can go wrong with a process

## Main definitions

* `Launcher.Fault` — a failed launch, wait, or termination. Each that comes from a refused call
  keeps the number with which the host refused it.
* `Launcher.Fault.message` — the text shown for it.
-/

namespace Launcher

/-- Whose termination failed. -/
inductive Target where
  /-- One process. -/
  | process (pid : Nat)
  /-- Every process of a group. -/
  | group (pgid : Nat)
  /-- A target that is known by a text. -/
  | named (text : String)
  deriving Repr, DecidableEq

/-- A failed launch, wait, or termination. -/
inductive Fault where
  /-- The process could not be started. -/
  | spawnFailed (command reason : String) (code : Option Int)
  /-- The job could not be created. -/
  | jobCreateFailed (reason : String) (code : Option Int)
  /-- The process was started and did not come to lead its own group. -/
  | assignFailed (pid : Nat) (reason : String) (code : Option Int)
  /-- The process exists and could not be waited for. -/
  | waitFailed (pid : Nat) (reason : String) (code : Option Int)
  /-- A process or a group could not be ended. -/
  | terminateFailed (target : Target) (reason : String) (code : Option Int)
  /-- The launch was refused before the host was asked. -/
  | configuration (reason : String)
  deriving Repr, DecidableEq

namespace Target

/-- The text shown for a target, with process numbers written by `number`. -/
def render (number : Nat → String) : Target → String
  | process pid => "process " ++ number pid
  | group pgid => "process group " ++ number pgid
  | named text => text

end Target

namespace Fault

/-- The text shown for a fault, with process numbers written by `number`. -/
def render (number : Nat → String) : Fault → String
  | spawnFailed command reason _ => "Process spawn failed: " ++ command ++ " - " ++ reason
  | jobCreateFailed reason _ => "Job object creation failed: " ++ reason
  | assignFailed pid reason _ =>
    "Process " ++ number pid ++ " could not be assigned to its job: " ++ reason
  | waitFailed pid reason _ => "Wait on process " ++ number pid ++ " failed: " ++ reason
  | terminateFailed target reason _ =>
    "Termination of " ++ target.render number ++ " failed: " ++ reason
  | configuration reason => "Launch configuration error: " ++ reason

/-- The text shown for a fault. -/
def message (fault : Fault) : String :=
  fault.render toString

/-- The number with which the host refused the call behind the fault, if it gave one. -/
def code? : Fault → Option Int
  | spawnFailed _ _ code | jobCreateFailed _ code | assignFailed _ _ code
  | waitFailed _ _ code | terminateFailed _ _ code => code
  | configuration _ => none

end Fault

end Launcher
