import Launcher.Launch.Start
import Launcher.Spec.Read
/-!
# From launch specs to configurations

## Main definitions

* `Launcher.Spec.loadFile` — the launch spec in a file.
* `Launcher.Spec.toConfig` — the configuration of a launch spec, which opens the files that the
  streams lead to.
-/

namespace Launcher

open Host (Dialogue IoFault OpenMode)
open Host.Dialogue (call)

namespace StreamSpec

/-- How the file of a stream is opened. -/
def openMode (which : Stream) (append : Bool) : OpenMode :=
  match which with
  | .stdin => .read
  | .stdout | .stderr => if append then .append else .create

/-- The fault of a file that cannot be opened. -/
def openFault (path : String) (fault : IoFault) : Fault :=
  .configuration ("Cannot open redirect target " ++ path ++ ": " ++ fault.message)

/-- The redirect of a stream, with its file open. -/
def toRedirect (which : Stream) : StreamSpec → Dialogue (Except Fault Redirect)
  | mode .inherit => pure (.ok .inherit)
  | mode .discard => pure (.ok .discard)
  | file path append => do
    match ← call (.openFile path (openMode which append)) with
    | .ok descriptor => pure (.ok (.file descriptor))
    | .error fault => pure (.error (openFault path fault))

end StreamSpec

namespace Spec

/-- The redirects of the streams, opened in their order up to the first that fails. Then those
before it are closed again. -/
def openStreams (s : Spec) : Dialogue (Except Fault Streams) := do
  match ← s.stdin.toRedirect .stdin with
  | .error fault => pure (.error fault)
  | .ok stdin =>
    match ← s.stdout.toRedirect .stdout with
    | .error fault =>
      Launch.closeAll [stdin]
      pure (.error fault)
    | .ok stdout =>
      match ← s.stderr.toRedirect .stderr with
      | .error fault =>
        Launch.closeAll [stdin, stdout]
        pure (.error fault)
      | .ok stderr => pure (.ok { stdin, stdout, stderr })

/-- The draft of a launch spec, with its streams. -/
def draft (s : Spec) (streams : Streams) : Draft where
  commandLine := s.commandLine
  workingDirectory := s.workingDirectory
  streams := streams
  inheritHandles := s.inheritHandles
  creation :=
    { newConsole := s.console.newConsole
      noWindow := s.console.noWindow
      detachedConsole := s.console.detached
      newProcessGroup := s.console.newProcessGroup }
  hideWindow := s.console.hideWindow
  completion := s.completion

/-- The configuration of a launch spec. When the check refuses it, the files are closed again, but
what opening has made of them stays. -/
def toConfig (s : Spec) : Dialogue (Except Fault Config) := do
  match ← s.openStreams with
  | .error fault => pure (.error fault)
  | .ok streams =>
    match ← Launch.build (s.draft streams) with
    | .ok config => pure (.ok config)
    | .error fault =>
      Launch.closeAll streams.toList
      pure (.error fault.toFault)

/-- The launch spec in a file. -/
def loadFile (path : String) : Dialogue (Except Failure Spec) := do
  match ← call (.readText path) with
  | .ok text => pure (load text)
  | .error fault =>
    pure (.error (.during ("Failed to read launch spec: " ++ path) (.io fault)))

end Spec

/-- Gives up a configuration: the open files of its streams are closed. -/
def Config.release (c : Config) : Dialogue Unit :=
  Launch.closeAll c.draft.streams.toList

end Launcher
