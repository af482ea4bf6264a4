import Launcher.Fault
import Launcher.Host.Call
/-!
# Handles of processes and jobs

A handle owns a started process until it is released. The end of the process is collected from the
host once, and remembered. A job is a group of processes, led by the one that was started.

## Main definitions

* `Launcher.Process` — a handle of a process, with `wait`, `waitFor`, `kill` and `release`.
* `Launcher.Process.await` — the wait behind `wait` and `waitFor`, with a limit or without one.
* `Launcher.Job` — a handle of a job, with `terminate` and `release`.

## Main results

* `Launcher.Process.wait_eq` — a wait without a limit never comes back too early.
-/

namespace Launcher

open Host (Pid Dialogue Errno)
open Host.Dialogue (call)

/-! ## Processes -/

/-- A handle of a started process. -/
structure Process where
  /-- The process. -/
  pid : Pid
  /-- What the wait that collected it has told of its end. -/
  ended : Option Host.WaitStatus := none
  deriving Repr, DecidableEq

namespace Process

/-- How the process ended, once it has been collected. -/
def status? (p : Process) : Option ExitStatus :=
  p.ended.map .ofWait

/-- A handle tells no status exactly as long as it does not know how its child has ended. -/
@[simp]
theorem status?_eq_none_iff {p : Process} : p.status? = none ↔ p.ended = none :=
  Option.map_eq_none_iff

/-- Waiting failed because the host refused it. -/
def waitFault (p : Process) (e : Errno) : Fault :=
  .waitFailed p.pid e.message (some e.code)

/-- Asks the host for the end of a process. Without a limit this takes as long as it takes, and with no
time the process is looked at once. -/
def askEnd (pid : Pid) : Option Nat → Dialogue (Except Errno (Option Host.WaitStatus))
  | none => do pure ((← call (.wait pid)).map some)
  | some limit => if limit = 0 then call (.poll pid) else call (.pollFor pid limit)

/-- Waits until the process has ended or the time is over, if there is a limit. -/
def await (p : Process) (limit : Option Nat) :
    Dialogue (Except Fault (Option ExitStatus) × Process) :=
  match p.ended with
  | some word => pure (.ok (some (.ofWait word)), p)
  | none => do
    match ← askEnd p.pid limit with
    | .ok ended => pure (.ok (ended.map .ofWait), { p with ended })
    | .error e => pure (.error (p.waitFault e), p)

/-- Waits until the process has ended. -/
def wait (p : Process) : Dialogue (Except Fault ExitStatus × Process) := do
  let (result, p) ← p.await none
  match result with
  | .ok (some status) => pure (.ok status, p)
  | .ok none =>
    pure (.error (.waitFailed p.pid "wait returned before the process exited" none), p)
  | .error fault => pure (.error fault, p)

/-- Waits until the process has ended or the time is over, given in milliseconds. -/
def waitFor (p : Process) (limit : Nat) : Dialogue (Except Fault (Option ExitStatus) × Process) :=
  p.await (some limit)

/-- **A wait without a limit** is one call, and never comes back before the process has ended. -/
theorem wait_eq (p : Process) :
    p.wait = (match p.ended with
      | some word => pure (.ok (.ofWait word), p)
      | none => do
        match ← call (.wait p.pid) with
        | .ok word => pure (.ok (.ofWait word), { p with ended := some word })
        | .error e => pure (.error (p.waitFault e), p)) := by
  obtain ⟨pid, ended⟩ := p
  cases ended with
  | some word => rfl
  | none =>
    refine congrArg (Dialogue.ask (.wait pid)) (funext fun answer => ?_)
    cases answer with
    | ok word => rfl
    | error e => rfl

/-- Ends the process. One that has been collected is left alone, since its number may be another's
by now. -/
def kill (p : Process) : Dialogue (Except Fault Unit) :=
  match p.ended with
  | some _ => pure (.ok ())
  | none => do
    match ← call (.kill p.pid) with
    | .ok () => pure (.ok ())
    | .error e => pure (.error (.terminateFailed (.process p.pid) e.message (some e.code)))

/-- Gives up the process. One that has not ended is handed to the reaper, which collects it. -/
def release (p : Process) : Dialogue Unit :=
  match p.ended with
  | some _ => pure ()
  | none => do
    match ← call (.poll p.pid) with
    | .ok (some _) => pure ()
    | .ok none => call (.adopt p.pid)
    | .error _ => pure ()

end Process

/-! ## Jobs -/

/-- A handle of a job. -/
structure Job where
  /-- The group of its processes. -/
  group : Pid
  /-- Releasing the handle ends all processes of the job. -/
  killOnClose : Bool
  deriving Repr, DecidableEq

namespace Job

/-- Ends all processes of the job. It is no fault if there are none. -/
def terminate (j : Job) : Dialogue (Except Fault Unit) := do
  match ← call (.killGroup j.group) with
  | .ok () => pure (.ok ())
  | .error e =>
    if e = .noProcess then pure (.ok ())
    else pure (.error (.terminateFailed (.group j.group) e.named (some e.code)))

/-- Gives up the job. -/
def release (j : Job) : Dialogue Unit :=
  if j.killOnClose then do
    let _ ← call (.killGroup j.group)
    pure ()
  else pure ()

end Job

end Launcher
