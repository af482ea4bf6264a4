import Launcher.Host.Call
/-!
# Processes and groups

The table of processes says which processes there are, who started them, which group they are in,
and whether they have ended. A process that has ended stays in the table until its parent has
collected it. The number of a process is not given out again.

## Main definitions

* `Launcher.Host.Life` — the life of a process.
* `Launcher.Host.Table` — the table of processes.
* `Launcher.Host.Table.fork`, `lead`, `signal`, `signalGroup`, `finish`, `collect` — what happens
  to it.
-/

namespace Launcher.Host

/-- The signal that ends a process whatever it does. -/
def killSignal : Nat := 9

/-- The signal that ends a process which writes where nobody can read. -/
def brokenPipeSignal : Nat := 13

/-- The signal that continues a stopped process. -/
def continueSignal : Nat := 18

/-- The signal that stops a process whatever it does. -/
def stopSignal : Nat := 19

/-- The signals by which a terminal stops a process. -/
def terminalStopSignals : List Nat := [20, 21, 22]

/-- The signals that do nothing to a process that does nothing about them. -/
def ignoredSignals : List Nat := [0, 17, 23, 28]

/-- The life of a process. -/
inductive Life where
  | running
  /-- It does nothing until it is continued. The signals that it has been sent meanwhile, and that
  will end it then, the latest first. -/
  | stopped (pending : List Nat)
  /-- It has been sent a signal that ends it, and has not ended yet. -/
  | doomed (signal : Nat)
  /-- It has ended and has not been collected. -/
  | ended (status : WaitStatus)
  deriving Repr, DecidableEq

namespace Life

/-- The process has not ended. -/
def isAlive : Life → Bool
  | running | stopped _ | doomed _ => true
  | ended _ => false

/-- The life after a signal that ends it. The first such signal counts. A stopped process minds only
the one that cannot be held up. -/
def signaled (signal : Nat) : Life → Life
  | running => doomed signal
  | stopped pending => if signal = killSignal then doomed signal else stopped (signal :: pending)
  | life => life

/-- The life after a signal that stops it. -/
def halted : Life → Life
  | running => stopped []
  | life => life

/-- The life after a signal that continues it. Of the signals held up, the one with the least number
counts. -/
def continued : Life → Life
  | stopped [] => running
  | stopped (signal :: pending) => doomed (pending.foldl min signal)
  | life => life

/-- The signal that is about to end the process. -/
def doom? : Life → Option Nat
  | doomed signal => some signal
  | _ => none

end Life

/-- A process in the table. -/
structure Entry where
  pid : Pid
  /-- Who started it; 0 once that process has ended. -/
  parent : Pid
  /-- The group that it is in. -/
  group : Pid
  life : Life := .running
  deriving Repr, DecidableEq

/-- The table of processes. -/
structure Table where
  entries : List Entry := []
  /-- The number of the next process; all processes so far have smaller ones. -/
  next : Pid := 1
  deriving Repr

namespace Table

/-- The entry of a process. -/
def find? (t : Table) (pid : Pid) : Option Entry :=
  t.entries.find? fun e => e.pid == pid

/-- The table with the entry of one process changed. -/
def modify (t : Table) (pid : Pid) (f : Entry → Entry) : Table :=
  { t with entries := t.entries.map fun e => if e.pid == pid then f e else e }

/-- There is a process of this number that has not ended. -/
def isAlive (t : Table) (pid : Pid) : Bool :=
  t.entries.any fun e => e.pid == pid && e.life.isAlive

/-- The processes of a group, also those that have ended. -/
def members (t : Table) (group : Pid) : List Entry :=
  t.entries.filter fun e => e.group == group

/-- The children of a process, also those that have ended. -/
def children (t : Table) (parent : Pid) : List Entry :=
  t.entries.filter fun e => e.parent == parent

/-- The table with a new process in a group. -/
def add (t : Table) (parent group : Pid) : Table :=
  { entries := t.entries ++ [{ pid := t.next, parent, group }], next := t.next + 1 }

/-- A process starts another one in its own group. -/
def fork (t : Table) (parent : Pid) : Table :=
  t.add parent ((t.find? parent).elim 0 Entry.group)

/-- A process comes to lead a group of its own. -/
def lead (t : Table) (pid : Pid) : Table :=
  t.modify pid fun e => { e with group := pid }

/-- A process is sent a signal that ends it. -/
def signal (t : Table) (signal : Nat) (pid : Pid) : Table :=
  t.modify pid fun e => { e with life := e.life.signaled signal }

/-- All processes of a group are sent a signal that ends them. -/
def signalGroup (t : Table) (signal : Nat) (group : Pid) : Table :=
  { t with entries := t.entries.map fun e =>
      if e.group == group then { e with life := e.life.signaled signal } else e }

/-- A process is out of the table. -/
def collect (t : Table) (pid : Pid) : Table :=
  { t with entries := t.entries.filter fun e => e.pid != pid }

/-- A process ends. Its children have no parent any more, and those of them that have ended are
out of the table, as the process itself is when it has no parent. -/
def finish (t : Table) (pid : Pid) (status : WaitStatus) : Table :=
  { t with entries := t.entries.filterMap fun e =>
      if e.pid == pid then
        if e.parent = 0 then none else some { e with life := .ended status }
      else if e.parent == pid then
        if e.life.isAlive then some { e with parent := 0 } else none
      else some e }

end Table

end Launcher.Host
