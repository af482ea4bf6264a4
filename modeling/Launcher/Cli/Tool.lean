import Launcher.Cli.Options
import Launcher.Cli.Report
import Launcher.CommandLine.Join
import Launcher.Launch.Basic
import Launcher.Spec.Open
/-!
# The command line tool

The tool starts one process, from a launch spec or from the words of a command, and looks after it
until it has ended or is given up.

## Main definitions

* `Launcher.Cli.Options.build` — the configuration of a command.
* `Launcher.Cli.Stop`, `Launcher.Cli.say` — why the tool stops short, and a line that it prints.
* `Launcher.Cli.supervise` — looks after a launched process.
* `Launcher.Cli.run` — the tool.
* `Launcher.Cli.runWords` — the tool, called with the words of a command line.
-/

namespace Launcher.Cli

open Host (Dialogue)
open Host.Dialogue (call)

/-! ## From words to a configuration -/

/-- Why a command has no configuration. -/
inductive BuildFault where
  | join (fault : CommandLine.JoinFault)
  | config (fault : ConfigFault)
  deriving Repr, DecidableEq

/-- The text shown for a fault. -/
def BuildFault.message : BuildFault → String
  | join fault => fault.message
  | config fault => fault.toFault.message

namespace Options

/-- What is done with the process. A job is tracked. -/
def completion (o : Options) : Completion :=
  match o.mode with
  | .wait => .wait
  | .track | .job => .track
  | .detach => .detach

/-- The options of the job, when the process is to be started inside of one. -/
def job (o : Options) : Option JobOptions :=
  if o.mode = .job then some { killOnClose := o.killOnClose } else none

/-- The configuration of the command, and the options of its job. -/
def build (o : Options) : Dialogue (Except BuildFault (Config × Option JobOptions)) :=
  match CommandLine.join o.command with
  | .error fault => pure (.error (.join fault))
  | .ok commandLine => do
    let draft : Draft :=
      { commandLine, workingDirectory := o.directory, completion := o.completion }
    match ← Launch.build draft with
    | .error fault => pure (.error (.config fault))
    | .ok config => pure (.ok (config, o.job))

/-- The configuration and the job that the options ask for: those of a launch spec, or of the
command. -/
def prepare (o : Options) : Dialogue (Except Trouble (Config × Option JobOptions)) :=
  match o.config with
  | some path => do
    match ← Spec.loadFile path with
    | .error failure => pure (.error (.ofFailure failure))
    | .ok spec =>
      match ← spec.toConfig with
      | .error fault => pure (.error (.ofFault fault))
      | .ok config => pure (.ok (config, spec.job))
  | none => do
    match ← o.build with
    | .error fault => pure (.error ⟨fault.message, []⟩)
    | .ok prepared => pure (.ok prepared)

end Options

/-! ## Stopping short -/

/-- Why the tool stops short. -/
inductive Stop where
  /-- Something has failed, and this is reported. -/
  | failed (trouble : Trouble)
  /-- A line could not be printed. The tool breaks off where it is, and everything that it holds is
  given up as when it goes on. -/
  | broken (text : String)
  deriving Repr, DecidableEq

/-- The fault of a process stops the tool. -/
def Stop.ofFault (fault : Fault) : Stop :=
  failed (.ofFault fault)

/-- Prints a line. -/
def say (line : String) : Dialogue (Except Stop Unit) := do
  match ← call (.print line) with
  | .ok () => pure (.ok ())
  | .error fault => pure (.error (.broken ("failed printing to stdout: " ++ fault.message)))

/-! ## Looking after a process -/

/-- Ends what was launched: the job, when there is one, or else the process. -/
def terminate (p : Process) : Option Job → Dialogue (Except Fault Unit)
  | some j => j.terminate
  | none => p.kill

/-- Waits until a process has ended. When the time is over, it or its job is ended. -/
def outlast (p : Process) (job : Option Job) (timeout : Option Nat) :
    Dialogue (Except Fault ExitStatus × Process) :=
  match timeout with
  | none => p.wait
  | some seconds => do
    let (result, p) ← p.waitFor (1000 * seconds)
    match result with
    | .error fault => pure (.error fault, p)
    | .ok (some status) => pure (.ok status, p)
    | .ok none =>
      match ← terminate p job with
      | .error fault => pure (.error fault, p)
      | .ok () => p.wait

/-- The line that tells how a process ended. -/
def exitLine (status : ExitStatus) : String :=
  "exit: " ++ status.text

/-- Looks after a launched process until it has ended or is given up. All handles are released. -/
def supervise (l : Launched) (timeout : Option Nat) : Dialogue (Except Stop Unit) := do
  match l.status, l.process with
  | some status, _ =>
    let result ← say (exitLine status)
    releaseProcess l.process
    releaseJob l.job
    pure result
  | none, none =>
    releaseJob l.job
    pure (.ok ())
  | none, some p =>
    let (result, p) ← outlast p l.job timeout
    let result ← match result with
      | .ok status => say (exitLine status)
      | .error fault => pure (.error (.ofFault fault))
    p.release
    releaseJob l.job
    pure result

/-! ## The tool -/

/-- Launches a configuration, alone or as a job. -/
def launchPrepared (c : Config) : Option JobOptions → Dialogue (Except Fault Launched)
  | some o => tryLaunchAsJob c o
  | none => tryLaunch c

/-- The line that tells the number of a process. -/
def pidLine (pid : Host.Pid) : String :=
  "pid: " ++ toString pid

/-- Launches a configuration and looks after the process. -/
def launchAndSupervise (c : Config) (job : Option JobOptions) (timeout : Option Nat) :
    Dialogue (Except Stop Unit) := do
  match ← launchPrepared c job with
  | .error fault =>
    pure (.error (.failed ⟨"Failed to launch: " ++ c.commandLine, [fault.message]⟩))
  | .ok launched =>
    match ← say (pidLine launched.pid) with
    | .ok () => supervise launched timeout
    | .error stop =>
      releaseProcess launched.process
      releaseJob launched.job
      pure (.error stop)

/-- The tool. -/
def run (o : Options) : Dialogue (Except Stop Unit) :=
  if o.elevated then do
    let elevated ← call .isElevated
    say ("elevated: " ++ (if elevated then "true" else "false"))
  else do
    match ← o.prepare with
    | .error trouble => pure (.error (.failed trouble))
    | .ok (config, job) =>
      let result ← launchAndSupervise config job o.timeout
      config.release
      pure result

/-! ## From words to the end of the tool -/

/-- How the tool has ended. -/
inductive Ending where
  /-- The words of the command line say nothing. -/
  | misused (fault : UsageFault)
  /-- There was something to do, and it has been done or the tool has stopped short. -/
  | finished (result : Except Stop Unit)

namespace Ending

/-- The exit code of the tool. Help and version are no failures. -/
def exitCode : Ending → Nat
  | misused .helpAsked | misused .versionAsked => 0
  | misused _ => 2
  | finished (.ok ()) => 0
  | finished (.error (.failed _)) => 1
  | finished (.error (.broken _)) => 101

/-- What the tool reports of a failure. -/
def report? : Ending → Option String
  | finished (.error (.failed trouble)) => some trouble.report
  | finished (.error (.broken _)) | finished (.ok ()) | misused _ => none

end Ending

/-- The tool, called with some words. -/
def runWords (words : List String) : Dialogue Ending :=
  match Options.ofWords words with
  | .error fault => pure (.misused fault)
  | .ok o => do
    pure (.finished (← run o))

end Launcher.Cli
