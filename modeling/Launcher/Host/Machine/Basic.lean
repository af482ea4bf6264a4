import Launcher.Host.Image
import Launcher.Host.OpenFile
import Launcher.Host.Table
import Launcher.Reaper
import Launcher.Shell.Task
/-!
# A machine

A machine is a host whose every answer is known: it has files, processes and a clock. A process
acts at certain times, and between them it is asleep or waits for a child. So the order in which
things happen is the order of times, and a call takes a short time during which processes act.

## Main definitions

* `Launcher.Host.Machine` — the state of a machine on which the launcher runs.
* `Launcher.Host.Machine.Agent` — a process other than the launcher, with what it does next.
* `Launcher.Host.Machine.send` — a signal sent to processes.
* `Launcher.Host.Machine.conclude` — a process ends.
* `Launcher.Host.Machine.fork` — a process starts another one.
-/

namespace Launcher.Host

/-- A time, in microseconds. -/
abbrev Time := Nat

/-- A kind of call that a machine can be told to refuse. -/
inductive Refusable where
  | groupOf
  | kill
  deriving Repr, DecidableEq

namespace Machine

/-- What a process does when its time has come. -/
inductive Work where
  | image (image : Image)
  | shell (state : Shell.State)
  /-- A shell that waits for a child, or for all of them. -/
  | awaits (state : Shell.State) (child : Option Pid)
  /-- The program that copies files has these left, and tells whether it has failed. -/
  | copying (names : List String) (good : Bool)
  | finish (status : WaitStatus)
  deriving Repr

/-- A process other than the launcher. -/
structure Agent where
  pid : Pid
  /-- Where it is. -/
  here : Location
  descriptors : Shell.Descriptors
  work : Work
  /-- When it acts next; a process that waits for others has no such time. -/
  due : Option Time
  /-- The calls that it is refused. -/
  refusals : List (Refusable × Errno)
  deriving Repr

end Machine

open Machine (Agent Work)

/-- A machine on which the launcher runs. -/
structure Machine where
  now : Time := 0
  files : Files := {}
  table : Table := {}
  agents : List Agent := []
  /-- The process of the launcher. -/
  own : Pid
  /-- Where the launcher is. -/
  here : Location
  /-- The descriptors of the launcher, each with its open file. -/
  descriptors : List (Descriptor × Nat) := []
  /-- So many descriptors the launcher may have. -/
  limit : Option Nat := none
  reaper : Reaper := {}
  /-- When the reaper wakes up. -/
  wake : Option Time := none
  /-- The launcher does not want to know how its children end, so that they need not be
  collected. -/
  forgets : Bool := false
  /-- The calls that the launcher is refused. -/
  refusals : List (Refusable × Errno) := []

namespace Machine

/-! ## How long things take -/

/-- The time of a call, or of a step of a shell. -/
def stepTime : Time := 20

/-- The time until a new process acts. -/
def startTime : Time := 500

/-- The time until a process looks again whether there is something to read. -/
def pollTime : Time := 100

/-- The time between a signal and the end of the process that it ends. -/
def endTime : Time := 100

/-! ## Processes -/

/-- A process by its number. -/
def agent? (m : Machine) (pid : Pid) : Option Agent :=
  m.agents.find? fun a => a.pid == pid

/-- A process is about to end because of a signal. -/
def isDoomed (m : Machine) (pid : Pid) : Bool :=
  (m.table.find? pid).any fun e => e.life.doom?.isSome

/-- A process does nothing until it is continued. -/
def isStopped (m : Machine) (pid : Pid) : Bool :=
  (m.table.find? pid).any fun e => e.life matches .stopped _

/-- The machine with a process changed, unless a signal is about to end it. -/
def put (m : Machine) (a : Agent) : Machine :=
  if m.isDoomed a.pid then m
  else { m with agents := m.agents.map fun b => if b.pid == a.pid then a else b }

/-- A process has a new state of its shell, and acts again after a step. -/
def resume (m : Machine) (a : Agent) (state : Shell.State) : Machine :=
  m.put { a with work := .shell state, due := some (m.now + stepTime) }

/-- A process tries the same again after a while. -/
def retry (m : Machine) (a : Agent) (work : Work) : Machine :=
  m.put { a with work, due := some (m.now + pollTime) }

/-- A process ends after some time. -/
def endAfter (m : Machine) (a : Agent) (status : Nat) (delay : Time) : Machine :=
  m.put { a with work := .finish (.ofCode status), due := some (m.now + delay) }

/-- A process starts another one in its own group. -/
def fork (m : Machine) (parent : Pid) (agent : Agent) : Pid × Machine :=
  let pid := m.table.next
  (pid, { m with
    table := m.table.fork parent
    agents := m.agents ++ [{ agent with pid, due := some (m.now + startTime) }] })

/-! ## Signals -/

/-- What a signal does to the life of a process that does nothing about it. A terminal stops only
the processes of groups that the launcher has made: nobody would continue the others. -/
def effect (m : Machine) (signal : Nat) (e : Entry) : Life → Life :=
  let own := (m.table.find? m.own).any fun launcher => launcher.group == e.group
  if signal = continueSignal then Life.continued
  else if signal = stopSignal then Life.halted
  else if terminalStopSignals.contains signal then if own then id else Life.halted
  else if ignoredSignals.contains signal then id
  else Life.signaled signal

/-- A signal changes the life of a process. If it dooms the process, the process ends after some
time. -/
def affect (m : Machine) (signal : Nat) (pid : Pid) (delay : Time) : Machine :=
  match m.table.find? pid, m.agent? pid with
  | some e, some a =>
    let life := m.effect signal e e.life
    let table := m.table.modify pid fun e => { e with life }
    match e.life.doom?, life.doom? with
    | none, some signal =>
      { m.put { a with work := .finish (.ofSignal signal false), due := some (m.now + delay) } with table }
    | _, _ => { m with table }
  | _, _ => m

/-- Processes are sent a signal. -/
def send (m : Machine) (signal : Nat) (pids : List Pid) (delay : Time) : Machine :=
  pids.foldl (fun m pid => m.affect signal pid delay) m

/-! ## Ends -/

/-- The code with which a shell remembers the end of a child. -/
def rememberedCode (status : WaitStatus) : Nat :=
  status.code?.getD (128 + status.cause)

/-- A shell that waits goes on, if what it waits for has happened. -/
def rouse (m : Machine) (a : Agent) : Machine :=
  match a.work with
  | .awaits state (some child) =>
    match m.table.find? child with
    | some e =>
      match e.life with
      | .ended status =>
        { m with table := m.table.collect child }.resume a (state.ended (rememberedCode status))
      | _ => m
    | none => m.resume a (state.ended 127)
  | .awaits state none =>
    let children := m.table.children a.pid
    if children.any fun e => e.life.isAlive then m
    else
      let table := children.foldl (fun (t : Table) (e : Entry) => t.collect e.pid) m.table
      { m with table }.resume a (state.ended 0)
  | _ => m

/-- A process ends. Shells that have waited for this go on. -/
def conclude (m : Machine) (pid : Pid) (status : WaitStatus) : Machine :=
  let ownChild := (m.table.find? pid).any fun e => e.parent == m.own
  let table := m.table.finish pid status
  let table := if ownChild && m.forgets then table.collect pid else table
  let m := { m with table, agents := m.agents.filter fun a => a.pid != pid }
  m.agents.foldl rouse m

/-! ## Pipes -/

/-- The open files that a process has, also those that its shell uses later. -/
def Agent.holds (a : Agent) : List Nat :=
  let saved := match a.work with
    | .shell s | .awaits s _ => s.saved
    | _ => []
  a.descriptors.map Prod.snd ++ saved

/-- A process can still write to the pipe that an open file is an end of. -/
def hasSource (m : Machine) (number : Nat) : Bool :=
  (m.files.pipe? number).any fun pipe =>
    m.agents.any fun a => a.holds.any fun n => m.files.isSource pipe n

/-- A process can still read from the pipe that an open file is an end of; other files need none. -/
def hasSink (m : Machine) (number : Nat) : Bool :=
  (m.files.pipe? number).all fun pipe =>
    m.agents.any fun a => a.holds.any fun n => m.files.isSink pipe n

/-- There is nothing to read from an open file, but there may be later. -/
def isEmptyYet (m : Machine) (number : Nat) : Bool :=
  m.hasSource number && ((m.files.rest number).toOption.any fun bytes => bytes.isEmpty)

/-- There is no end of a line to read from an open file, but there may be one later. -/
def isUnfinished (m : Machine) (number : Nat) : Bool :=
  m.hasSource number && ((m.files.rest number).toOption.any fun bytes => !bytes.contains 10)

/-! ## Files -/

/-- What can be read of the state of a process. -/
def statusText (e : Entry) : String :=
  let state := match e.life with
    | .running | .doomed _ => "S"
    | .stopped _ => "T"
    | .ended _ => "Z"
  toString e.pid ++ " (sh) " ++ state ++ " " ++ toString e.parent ++ " " ++ toString e.group ++
    " " ++ toString e.group ++ " 0 -1 0\n"

/-- The process whose directory is at a place, and what is asked of it. -/
def processAt? (m : Machine) (self : Pid) : Location → Option (Entry × List String)
  | "proc" :: name :: rest => do
    let pid ← if name == "self" then some self else name.toNat?
    let e ← m.table.find? pid
    some (e, rest)
  | _ => none

/-- Opens a file for a process. The states of processes can be read as files. -/
def openFor (m : Machine) (self : Pid) (here : Location) (path : String) (mode : OpenMode) :
    Except Errno (Nat × Machine) := do
  let (number, files) ←
    match m.processAt? self (Volume.locate here path), mode with
    | some (e, ["stat"]), .read =>
      pure (m.files.hold { channel := .text (Text.Utf8.encode (statusText e)), mode })
    | _, _ => m.files.openAt here path mode
  pure (number, { m with files })

/-- Writes to a descriptor of a process. -/
def writeTo (m : Machine) (a : Agent) (descriptor : Nat) (bytes : List UInt8) :
    Except Errno Machine :=
  match a.descriptors.lookup descriptor with
  | none => .error .badDescriptor
  | some number => do
    if !m.hasSink number then .error .brokenPipe
    else
      let files ← m.files.write number bytes
      pure { m with files }

/-- A process writes a complaint, if it can. -/
def complain (m : Machine) (a : Agent) (text : String) : Machine :=
  match m.writeTo a 2 (Text.Utf8.encode (text ++ "\n")) with
  | .ok m => m
  | .error _ => m

/-- A process could not write. It complains, or, if nobody can read what it writes, it is ended by
a signal. -/
def writeFailed (m : Machine) (a : Agent) (e : Errno) (text : String) : Machine :=
  if e = .brokenPipe then m.send brokenPipeSignal [a.pid] 0 else m.complain a text

end Machine

end Launcher.Host
