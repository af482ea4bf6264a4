import Launcher.Launch.Start
import Launcher.Spec.Basic
/-!
# Launches

A launch starts one process, and then does with it what the configuration says: it waits until the
process has ended, hands it to the caller, or gives it up.

## Main definitions

* `Launcher.Launched` — what a launch has produced.
* `Launcher.tryLaunch`, `tryLaunchAsJob` — a launch, alone or as a job.
* `Launcher.Outcome` — what a launch has produced or why it failed, as one record.
* `Launcher.launch`, `launchAsJob` — a launch with such an outcome.
* `Launcher.runAndWait`, `runDetached`, `runForPid` — launches that only tell whether they worked.
-/

namespace Launcher

open Host (Pid Dialogue)

/-! ## Launches that may fail -/

/-- What a launch has produced. -/
structure Launched where
  /-- The process that was started. -/
  pid : Pid
  /-- Its handle, when it is tracked. -/
  process : Option Process
  /-- The job, of a launch as a job. -/
  job : Option Job
  /-- How it ended, when it was waited for. -/
  status : Option ExitStatus
  deriving Repr, DecidableEq

/-- Gives up a process that may be there. -/
def releaseProcess : Option Process → Dialogue Unit
  | some p => p.release
  | none => pure ()

/-- Gives up a job that may be there. -/
def releaseJob : Option Job → Dialogue Unit
  | some j => j.release
  | none => pure ()

namespace Launch

/-- Does with a started process what a mode says. -/
def complete (p : Process) (job : Option Job) : Completion → Dialogue (Except Fault Launched)
  | .wait => do
    let (result, p) ← p.wait
    match result with
    | .ok status =>
      p.release
      pure (.ok { pid := p.pid, process := none, job, status := some status })
    | .error fault =>
      releaseJob job
      p.release
      pure (.error fault)
  | .track => pure (.ok { pid := p.pid, process := some p, job, status := none })
  | .detach => do
    p.release
    pure (.ok { pid := p.pid, process := none, job, status := none })

/-- The fault of a job that is to be waited for. -/
def waitingJob : Fault :=
  .configuration "Job-tracked launches cannot wait for completion"

end Launch

/-- Starts a process. -/
def tryLaunch (c : Config) : Dialogue (Except Fault Launched) := do
  match ← Launch.start c c.ownGroup with
  | .error fault => pure (.error fault)
  | .ok pid => Launch.complete { pid } none c.completion

/-- Starts a process in a job of its own. Waiting for it is refused, since a job is there to be
controlled later. -/
def tryLaunchAsJob (c : Config) (o : JobOptions) : Dialogue (Except Fault Launched) :=
  if c.completion.waits then pure (.error Launch.waitingJob)
  else do
    match ← Launch.startJob c o.killOnClose with
    | .error fault => pure (.error fault)
    | .ok (pid, job) => Launch.complete { pid } (some job) c.completion

/-! ## Launches with an outcome -/

/-- What a launch has produced, or why it failed. -/
structure Outcome where
  /-- The process that was started; 0, if there is none or it has been ended again. -/
  pid : Pid := 0
  /-- Its handle, when it is tracked. -/
  process : Option Process := none
  /-- The job, of a launch as a job. -/
  job : Option Job := none
  /-- How it ended, when it was waited for. -/
  status : Option ExitStatus := none
  /-- Why the launch failed. -/
  fault : Option Fault := none
  deriving Repr, DecidableEq

namespace Outcome

/-- The launch has not failed. -/
def succeeded (o : Outcome) : Bool :=
  o.fault.isNone

/-- The outcome of a failed launch. A process that could not be waited for is there all the
same. -/
def failed (fault : Fault) : Outcome :=
  match fault with
  | .waitFailed pid _ _ => { pid, fault := some fault }
  | _ => { fault := some fault }

/-- The outcome of a launch. -/
def ofResult : Except Fault Launched → Outcome
  | .ok l => { pid := l.pid, process := l.process, job := l.job, status := l.status }
  | .error fault => failed fault

/-- Gives up what a launch has produced. -/
def release (o : Outcome) : Dialogue Unit := do
  releaseProcess o.process
  releaseJob o.job

end Outcome

/-- Starts a process. -/
def launch (c : Config) : Dialogue Outcome := do
  pure (.ofResult (← tryLaunch c))

/-- Starts a process in a job of its own. -/
def launchAsJob (c : Config) (o : JobOptions) : Dialogue Outcome := do
  pure (.ofResult (← tryLaunchAsJob c o))

/-! ## Launches that only tell whether they worked -/

/-- Starts the process of a draft, and gives up what the launch has produced. -/
def runDraft (d : Draft) : Dialogue Bool := do
  match ← Launch.build d with
  | .error _ => pure false
  | .ok c =>
    let outcome ← launch c
    outcome.release
    pure outcome.succeeded

/-- Runs a command to its end. How it ends does not matter. -/
def runAndWait (commandLine : String) (directory : Option String) : Dialogue Bool :=
  runDraft { Draft.ofCommand commandLine with
    workingDirectory := directory, completion := .wait }

/-- Starts a command and gives it up. -/
def runDetached (commandLine : String) : Dialogue Bool :=
  runDraft { Draft.ofCommand commandLine with completion := .detach }

/-- Starts a process, gives up its handle, and tells its number, or 0. -/
def runForPid (c : Config) : Dialogue Pid := do
  let outcome ← launch c
  outcome.release
  pure outcome.pid

end Launcher
