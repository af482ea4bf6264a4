import Launcher.Path
import Launcher.Status
/-!
# Launch specs

A launch spec is the plain form of a launch, as it stands in a document. It names the files that
streams are redirected to; they are opened when a configuration is made of it.

## Main definitions

* `Launcher.StreamSpec` — where a standard stream leads.
* `Launcher.ConsoleSpec` — the flags about consoles and windows.
* `Launcher.JobOptions` — what becomes of a job when it is released.
* `Launcher.Spec` — a launch spec.
* `Launcher.Spec.same` — equality of launch specs, where paths are the same by components.
-/

namespace Launcher

/-- A standard stream that leads to no file of its own. -/
inductive StreamMode where
  | inherit
  | discard
  deriving Repr, DecidableEq

namespace StreamMode

/-- The name of a mode in documents. -/
def name : StreamMode → String
  | inherit => "inherit"
  | discard => "discard"

/-- The modes, in the order in which messages list them. -/
def all : List StreamMode :=
  [inherit, discard]

/-- The mode of a name. -/
def ofName? (name : String) : Option StreamMode :=
  all.find? fun mode => mode.name == name

/-- Every mode is found by its name. -/
theorem ofName?_name (mode : StreamMode) : ofName? mode.name = some mode := by
  cases mode <;> decide

end StreamMode

/-- Where a standard stream leads. -/
inductive StreamSpec where
  | mode (mode : StreamMode)
  /-- To a file, which is emptied first or appended to. -/
  | file (path : String) (append : Bool)
  deriving Repr, DecidableEq

namespace StreamSpec

/-- A stream of which nothing is said. -/
instance : Inhabited StreamSpec := ⟨mode .inherit⟩

/-- Two streams lead to the same place. -/
def same : StreamSpec → StreamSpec → Bool
  | mode m, mode m' => m == m'
  | file path append, file path' append' => Path.same path path' && append == append'
  | _, _ => false

end StreamSpec

/-- The flags about consoles and windows. -/
structure ConsoleSpec where
  newConsole : Bool := false
  noWindow : Bool := false
  detached : Bool := false
  newProcessGroup : Bool := false
  hideWindow : Bool := false
  deriving Repr, DecidableEq, Inhabited

/-- What becomes of a job when it is released. -/
structure JobOptions where
  /-- Every process of the job is ended. -/
  killOnClose : Bool := false
  deriving Repr, DecidableEq, Inhabited

/-- A launch spec. -/
structure Spec where
  commandLine : String
  workingDirectory : Option String := none
  stdin : StreamSpec := default
  stdout : StreamSpec := default
  stderr : StreamSpec := default
  inheritHandles : Bool := false
  console : ConsoleSpec := {}
  completion : Completion := default
  /-- Present when the process is to be started inside of a job. -/
  job : Option JobOptions := none
  deriving Repr, DecidableEq

namespace Spec

/-- Two launch specs say the same. -/
def same (s t : Spec) : Bool :=
  s.commandLine == t.commandLine &&
    Path.sameOption s.workingDirectory t.workingDirectory &&
    s.stdin.same t.stdin && s.stdout.same t.stdout && s.stderr.same t.stderr &&
    s.inheritHandles == t.inheritHandles && s.console == t.console &&
    s.completion == t.completion && s.job == t.job

end Spec

end Launcher
