import Launcher.Host.Machine.Call
import Launcher.Host.Machine.Shell
/-!
# The clock of a machine

The clock goes from one event to the next: a process acts, or the reaper wakes up.

## Main definitions

* `Launcher.Host.Machine.next?` — the next event.
* `Launcher.Host.Machine.runUntil` — the machine goes on until something is the case.
* `Launcher.Host.Machine.answer` — the answer to a call, in its time.
-/

namespace Launcher.Host.Machine

/-! ## Events -/

/-- A process acts. -/
def act (m : Machine) (a : Agent) : Machine :=
  match a.work with
  | .image image =>
    if image.program = .shell then m.beginShell a image else m.runProgram a image
  | .shell state => m.stepShell a state
  | .awaits _ _ => m
  | .copying names good => m.stepCopy a names good
  | .finish status => m.conclude a.pid status

/-- A round of the reaper. -/
def reap (m : Machine) : Machine :=
  let (reaper, m) := m.reaper.round.play immediate m
  { m with reaper, wake := reaper.pause?.map fun pause => m.now + 1000 * pause }

/-- An event: a process acts, or the reaper wakes up. -/
inductive Event where
  | act (a : Agent)
  | reap

/-- The earlier one of two events with their times; of two at one time, the first. -/
def earlier (e e' : Option (Time × Event)) : Option (Time × Event) :=
  match e, e' with
  | some (t, event), some (t', event') => some (if t ≤ t' then (t, event) else (t', event'))
  | some e, none | none, some e => some e
  | none, none => none

/-- When a process acts next; a stopped one does not. -/
def dueTime? (m : Machine) (a : Agent) : Option Time :=
  if m.isStopped a.pid then none else a.due

/-- The next event, and its time. -/
def next? (m : Machine) : Option (Time × Event) :=
  m.agents.foldl (fun e a => earlier e ((m.dueTime? a).map fun t => (t, .act a)))
    (m.wake.map fun t => (t, .reap))

/-- The machine after an event at some time. -/
def happen (m : Machine) (t : Time) (e : Event) : Machine :=
  let m := { m with now := max m.now t }
  match e with
  | .act a => m.act a
  | .reap => m.reap

/-! ## Going on -/

/-- So many events at most happen during one call. -/
def eventLimit : Nat := 4000000

/-- The machine goes on until something is the case, or up to a time if that is earlier. -/
def runFor (until? : Machine → Bool) (deadline : Option Time) : (events : Nat) → Machine → Machine
  | 0, m => m
  | events + 1, m =>
    if until? m then m
    else
      match m.next?, deadline with
      | some (t, e), some limit =>
        if t ≤ limit then runFor until? deadline events (m.happen t e)
        else { m with now := max m.now limit }
      | some (t, e), none => runFor until? deadline events (m.happen t e)
      | none, some limit => { m with now := max m.now limit }
      | none, none => m

/-- The machine goes on until something is the case, or up to a time if that is earlier. -/
def runUntil (m : Machine) (until? : Machine → Bool) (deadline : Option Time) : Machine :=
  runFor until? deadline eventLimit m

/-- The machine goes on for some time. -/
def pass (m : Machine) (time : Time) : Machine :=
  m.runUntil (fun _ => false) (some (m.now + time))

/-! ## Answers -/

/-- A child of the launcher has ended, or there is none of this number. -/
def isSettled (pid : Pid) (m : Machine) : Bool :=
  match m.child? pid with
  | some e => !e.life.isAlive
  | none => true

/-- The time that a call takes before it is answered. -/
def callTime : Call → Time
  | .start _ => startTime
  | _ => stepTime

/-- The answer to a call, in its time. A call that waits is answered when what it waits for has
happened; but who does not want to know how children end is not told when one does, and polls it in
vain until the time is over. The reaper wakes up when a process is handed over to it. -/
def answer (m : Machine) (c : Call) : c.Answer × Machine :=
  let m := m.pass (callTime c)
  match c with
  | .wait pid => (m.runUntil (isSettled pid) none).immediate (.wait pid)
  | .pollFor pid limit =>
    let (answer, now) := m.immediate (.poll pid)
    if m.forgets && answer matches .ok none then (answer, now.pass (1000 * limit))
    else (m.runUntil (isSettled pid) (some (m.now + 1000 * limit))).immediate (.poll pid)
  | .adopt pid =>
    let ((), m) := m.immediate (.adopt pid)
    ((), m.reap)
  | c => m.immediate c

end Launcher.Host.Machine
