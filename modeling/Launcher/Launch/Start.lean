import Launcher.CommandLine.Split
import Launcher.Config.Basic
import Launcher.Handle
/-!
# Starting a process

## Main definitions

* `Launcher.Launch.build` — the check of a draft, which asks the host about the directory.
* `Launcher.Launch.start` — starts the process of a configuration.
* `Launcher.Launch.startJob` — starts it as the leader of a group, and makes sure that it leads.
-/

namespace Launcher.Launch

open Host (Pid Dialogue Errno)
open Host.Dialogue (call)

/-! ## The check of a draft -/

/-- Checks a draft. The host is asked only about a directory, and only when no other rule is
broken. -/
def build (d : Draft) : Dialogue (Except ConfigFault Config) :=
  match d.staticFault?, d.workingDirectory with
  | none, some directory => do
    let isThere ← call (.isDirectory directory)
    pure (d.build fun path => path == directory && isThere)
  | _, _ => pure (d.build fun _ => false)

/-! ## Streams -/

/-- Closes the open files that some redirects lead to. -/
def closeAll : List Redirect → Dialogue Unit
  | [] => pure ()
  | .file descriptor :: rest => do
    call (.close descriptor)
    closeAll rest
  | _ :: rest => closeAll rest

/-- A redirect with a descriptor of its own. -/
def duplicate : Redirect → Dialogue (Except Errno Redirect)
  | .file descriptor => do
    match ← call (.duplicate descriptor) with
    | .ok copy => pure (.ok (.file copy))
    | .error e => pure (.error e)
  | r => pure (.ok r)

/-- The streams with descriptors of their own. They are made in the order of the streams; when one
cannot be made, those before it are closed again. -/
def duplicateStreams (s : Streams) : Dialogue (Except Errno Streams) := do
  match ← duplicate s.stdin with
  | .error e => pure (.error e)
  | .ok stdin =>
    match ← duplicate s.stdout with
    | .error e =>
      closeAll [stdin]
      pure (.error e)
    | .ok stdout =>
      match ← duplicate s.stderr with
      | .error e =>
        closeAll [stdin, stdout]
        pure (.error e)
      | .ok stderr => pure (.ok { stdin, stdout, stderr })

/-! ## Processes -/

/-- The fault of a command line from which no program can be read. -/
def noProgram : Fault :=
  .configuration "Command line has no program"

/-- The fault of a stream for which no descriptor can be made. -/
def duplicateFault (c : Config) (e : Errno) : Fault :=
  .spawnFailed c.commandLine ("Failed to duplicate stdio file: " ++ e.message) (some e.code)

/-- The fault of a process that the host does not start. -/
def startFault (c : Config) (e : Errno) : Fault :=
  .spawnFailed c.commandLine e.message (some e.code)

/-- Starts the process of a configuration. The streams are duplicated for it, and the duplicates
closed again, whether it was started or not. -/
def start (c : Config) (ownGroup : Bool) : Dialogue (Except Fault Pid) :=
  match CommandLine.split c.commandLine with
  | [] => pure (.error noProgram)
  | program :: arguments => do
    match ← duplicateStreams c.draft.streams with
    | .error e => pure (.error (duplicateFault c e))
    | .ok streams =>
      let started ← call (.start
        { program, arguments, directory := c.draft.workingDirectory, ownGroup, streams })
      closeAll streams.toList
      match started with
      | .ok pid => pure (.ok pid)
      | .error e => pure (.error (startFault c e))

/-! ## Jobs -/

/-- Why a started process is not the leader of its own group, if it is not. -/
def assignFault? (pid : Pid) : Except Errno Pid → Option Fault
  | .ok group =>
    if group = pid then none
    else some (.assignFailed pid ("process is in group " ++ toString group) none)
  | .error e => some (.assignFailed pid ("getpgid failed: " ++ e.named) (some e.code))

/-- Ends and collects a process that does not lead its own group. Whether that works changes
nothing. -/
def abort (pid : Pid) : Dialogue Unit := do
  let _ ← call (.kill pid)
  let _ ← call (.wait pid)
  pure ()

/-- Starts the process of a configuration as the leader of a group. The process makes the group
itself; the host is asked whether it did. -/
def startJob (c : Config) (killOnClose : Bool) : Dialogue (Except Fault (Pid × Job)) := do
  match ← start c true with
  | .error fault => pure (.error fault)
  | .ok pid =>
    match assignFault? pid (← call (.groupOf pid)) with
    | none => pure (.ok (pid, { group := pid, killOnClose }))
    | some fault =>
      abort pid
      pure (.error fault)

end Launcher.Launch
