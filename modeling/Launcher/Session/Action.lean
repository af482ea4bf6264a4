import Launcher.Session.Basic
/-!
# What is done in a session

## Main definitions

* `Launcher.Session.Action` — something that is done.
* `Launcher.Session.Reply` — what comes of it.
* `Launcher.Session.act` — a session after an action.
-/

namespace Launcher.Session

open Host (Pid Dialogue Machine Location Volume Errno Refusable)
open Host.Dialogue (call)

/-! ## Actions and replies -/

/-- How a command is launched. -/
inductive Manner where
  | launch
  | launchAsJob
  | tryLaunch
  | tryLaunchAsJob
  /-- Only the number of the process is kept. -/
  | forPid
  deriving Repr, DecidableEq

/-- A command to be launched. -/
structure Order where
  manner : Manner
  commandLine : String
  choices : List Choice
  options : JobOptions
  /-- So many descriptors can be opened during the launch. -/
  spare : Option Nat
  deriving Repr, DecidableEq

/-- Where a launch spec comes from. -/
inductive Source where
  | text (text : String)
  | file (path : String)
  deriving Repr, DecidableEq

/-- Something that is done with what is kept in a slot. -/
inductive Handling where
  | launch (order : Order)
  /-- Launches a launch spec; only so many descriptors can be opened while it is read. -/
  | launchSpec (source : Source) (spare : Option Nat)
  | wait
  /-- Waits so many milliseconds. -/
  | waitFor (limit : Nat)
  | kill
  | terminate
  | releaseProcess
  | releaseJob
  /-- Does the process have the number of the launch? -/
  | samePid
  | describe
  /-- Collects the process behind the back of its handle. -/
  | steal
  | isRunning
  | untilDead
  | untilGone
  deriving Repr, DecidableEq

/-- Something that is done with the process whose number is in a file. -/
inductive Tracking where
  | isRunning
  | untilDead
  | kill
  deriving Repr, DecidableEq

/-- Something that is done. -/
inductive Action where
  | handle (slot : String) (handling : Handling)
  | track (path : String) (tracking : Tracking)
  | runAndWait (commandLine : String) (directory : Option String)
  | runDetached (commandLine : String)
  | isElevated
  /-- Does the launcher run with all privileges exactly if it is told so? -/
  | agreesElevated
  | giveUpPrivileges
  | takePrivileges
  | forgetChildren
  | refuse (kinds : List Refusable) (errno : Errno)
  | untilWritten (path : String)
  | read (path : String)
  | write (path text : String)
  | remove (path : String)
  | list
  | sleep (milliseconds : Nat)
  | countDescriptors
  | untilNoneEnded
  deriving Repr, DecidableEq

/-- What comes of an action. -/
inductive Reply where
  | nothing
  | flag (value : Bool)
  | number (value : Int)
  | text (value : String)
  /-- It has been done. -/
  | done
  | noProcess
  | noJob
  | outcome (outcome : Outcome)
  | launched (launched : Launched)
  | fault (fault : Fault)
  | failure (failure : Failure)
  | status (status : Option ExitStatus)
  | handles (process : Option Process) (job : Option Job)
  | listing (entries : List (String × Option (List UInt8)))

/-- What comes of something that may fail. -/
def Reply.ofResult {α : Type} (reply : α → Reply) : Except Fault α → Reply
  | .ok value => reply value
  | .error f => .fault f

/-! ## Launching -/

/-- What is kept of a launch. -/
def slotOf (o : Outcome) : Slot :=
  { pid := o.pid, process := o.process, job := o.job }

/-- A launch of a configuration, and its outcome. -/
def launchIn (s : Session) (name : String) (spare : Option Nat) (d : Dialogue Outcome) :
    Reply × Session :=
  let (outcome, s) := s.playWith spare d
  (.outcome outcome, s.replaceSlot name (slotOf outcome))

/-- A launch of a configuration, which may fail and then leaves the slot as it is. -/
def tryLaunchIn (s : Session) (name : String) (spare : Option Nat)
    (d : Dialogue (Except Fault Launched)) : Reply × Session :=
  match s.playWith spare d with
  | (.ok l, s) => (.launched l, s.replaceSlot name (slotOf (.ofResult (.ok l))))
  | (.error f, s) => (.fault f, s)

/-- A launch in some manner. -/
def launchConfig (s : Session) (name : String) (o : Order) (c : Config) : Reply × Session :=
  match o.manner with
  | .launch => s.launchIn name o.spare (Launcher.launch c)
  | .launchAsJob => s.launchIn name o.spare (Launcher.launchAsJob c o.options)
  | .tryLaunch => s.tryLaunchIn name o.spare (Launcher.tryLaunch c)
  | .tryLaunchAsJob => s.tryLaunchIn name o.spare (Launcher.tryLaunchAsJob c o.options)
  | .forPid =>
    let (pid, s) := s.playWith o.spare (runForPid c)
    (.flag (0 < pid), s)

/-- Gives up the files of a configuration after a launch. -/
def afterLaunch (c : Config) (result : Reply × Session) : Reply × Session :=
  let ((), s) := result.2.play c.release
  (result.1, s)

/-- Launches a command. -/
def launchOrder (s : Session) (name : String) (o : Order) : Reply × Session :=
  let (drafted, s) := s.play ((Draft.ofCommand o.commandLine).chooseAll o.choices)
  match drafted with
  | .error fault => (.failure (.io fault), s)
  | .ok d =>
    match s.play (Launch.build d) with
    | (.ok c, s) => afterLaunch c (s.launchConfig name o c)
    | (.error fault, s) =>
      let ((), s) := s.play (Launch.closeAll d.streams.toList)
      (.fault fault.toFault, s)

/-- The launch spec of a source. -/
def Source.load : Source → Dialogue (Except Failure Spec)
  | .text document => pure (Spec.load document)
  | .file path => Spec.loadFile path

/-- Launches a launch spec. -/
def launchSource (s : Session) (name : String) (source : Source) (spare : Option Nat) :
    Reply × Session :=
  match s.play source.load with
  | (.error failure, s) => (.failure failure, s)
  | (.ok spec, s) =>
    match s.playWith spare spec.toConfig with
    | (.error f, s) => (.fault f, s)
    | (.ok c, s) =>
      afterLaunch c <| s.tryLaunchIn name none <|
        match spec.job with
        | some options => tryLaunchAsJob c options
        | none => tryLaunch c

/-! ## Handles -/

/-- Waits for the process of a slot. -/
def waitIn {α : Type} (s : Session) (name : String) (wait : Process → Dialogue (Except Fault α × Process))
    (status : α → Option ExitStatus) : Reply × Session :=
  let slot := s.slot name
  match slot.process with
  | none => (.noProcess, s)
  | some p =>
    let ((result, p), s) := s.play (wait p)
    (.ofResult (fun value => .status (status value)) result,
      s.setSlot name { slot with process := some p })

/-- The process is there and has not ended. -/
def isRunning (pid : Pid) (m : Machine) : Bool :=
  m.table.isAlive pid

/-- There is no trace of the process. -/
def isGone (pid : Pid) (m : Machine) : Bool :=
  (m.table.find? pid).isNone

/-- Something is done with what is kept in a slot. -/
def handle (s : Session) (name : String) (handling : Handling) : Reply × Session :=
  let slot := s.slot name
  match handling with
  | .launch order => s.launchOrder name order
  | .launchSpec source spare => s.launchSource name source spare
  | .wait => s.waitIn name Process.wait some
  | .waitFor limit => s.waitIn name (fun p => p.waitFor limit) id
  | .kill =>
    match slot.process with
    | none => (.noProcess, s)
    | some p =>
      let (result, s) := s.play p.kill
      (.ofResult (fun () => .done) result, s)
  | .terminate =>
    match slot.job with
    | none => (.noJob, s)
    | some j =>
      let (result, s) := s.play j.terminate
      (.ofResult (fun () => .done) result, s)
  | .releaseProcess =>
    let ((), s) := s.play (Launcher.releaseProcess slot.process)
    (.flag slot.process.isSome, s.setSlot name { slot with process := none })
  | .releaseJob =>
    let ((), s) := s.play (Launcher.releaseJob slot.job)
    (.flag slot.job.isSome, s.setSlot name { slot with job := none })
  | .samePid =>
    match slot.process with
    | none => (.nothing, s)
    | some p => (.flag (p.pid == slot.pid), s)
  | .describe => (.handles slot.process slot.job, s)
  | .steal =>
    let (result, s) := s.play (call (.wait slot.pid))
    (.flag result.toBool, s)
  | .isRunning =>
    let (seen, s) := s.look (isRunning slot.pid)
    (.flag seen, s)
  | .untilDead =>
    let (seen, s) := s.watch fun m => !isRunning slot.pid m
    (.flag seen, s)
  | .untilGone =>
    let (seen, s) := s.watch (isGone slot.pid)
    (.flag seen, s)

/-! ## Files -/

/-- The bytes of a file. -/
def bytesAt? (m : Machine) (path : String) : Option (List UInt8) :=
  (m.files.volume.read m.here path).toOption

/-- The number of a process that is written in a file. -/
def pidAt? (m : Machine) (path : String) : Option Pid := do
  let bytes ← bytesAt? m path
  (Text.Utf8.decodeLossy bytes).trimAscii.toString.toNat?

/-- Something is done with the process whose number is in a file. -/
def track (s : Session) (path : String) (tracking : Tracking) : Reply × Session :=
  match pidAt? s.machine path with
  | none => (.nothing, s)
  | some pid =>
    match tracking with
    | .isRunning =>
      let (seen, s) := s.look (isRunning pid)
      (.flag seen, s)
    | .untilDead =>
      let (seen, s) := s.watch fun m => !isRunning pid m
      (.flag seen, s)
    | .kill =>
      let (result, s) := s.play (call (.kill pid))
      (.number (if result.toBool then 0 else -1), s)

/-- Writes a file. -/
def write (s : Session) (path text : String) : Bool × Session :=
  let m := s.machine
  match m.files.openAt m.here path .create with
  | .error _ => (false, s)
  | .ok (number, files) =>
    match files.write number (Text.Utf8.encode text) with
    | .ok files => (true, { s with machine := { m with files } })
    | .error _ => (false, s)

/-- Removes a file. -/
def remove (s : Session) (path : String) : Bool × Session :=
  let m := s.machine
  match m.files.volume.find m.here path with
  | .ok (.present b) =>
    if b.node = .directory then (false, s)
    else
      let files := { m.files with volume := m.files.volume.unbind b.location }
      (true, { s with machine := { m with files } })
  | _ => (false, s)

/-- The file ends with the end of a line. -/
def isWritten (path : String) (m : Machine) : Bool :=
  (bytesAt? m path).any fun bytes => bytes.getLast? == some 10

/-- No child of the launcher has ended without being collected. -/
def noneEnded (m : Machine) : Bool :=
  (m.table.children m.own).all fun e => e.life.isAlive

/-! ## All actions -/

/-- The time that a change of privileges takes, in microseconds. -/
def privilegeTime : Host.Time := 1000

/-- A reply that is a flag. -/
def flagged (result : Bool × Session) : Reply × Session :=
  (.flag result.1, result.2)

/-- The session after an action, and what comes of it. The host does not let the launcher give up its
privileges. -/
def act (s : Session) : Action → Reply × Session
  | .handle name handling => s.handle name handling
  | .track path tracking => s.track path tracking
  | .runAndWait commandLine directory => flagged (s.play (runAndWait commandLine directory))
  | .runDetached commandLine => flagged (s.play (runDetached commandLine))
  | .isElevated => flagged (s.play (call .isElevated))
  | .agreesElevated => (.flag true, s)
  | .giveUpPrivileges => (.flag false, s.pass privilegeTime)
  | .takePrivileges => (.flag true, s.pass privilegeTime)
  | .forgetChildren => (.flag true, { s with machine := { s.machine with forgets := true } })
  | .refuse kinds errno =>
    let refusals := kinds.map (fun kind => (kind, errno.filtered)) ++ s.machine.refusals
    (.flag true, { s with machine := { s.machine with refusals } })
  | .untilWritten path => flagged (s.watch (isWritten path))
  | .read path =>
    match bytesAt? s.machine path with
    | some bytes => (.text (Text.Utf8.decodeLossy bytes), s)
    | none => (.nothing, s)
  | .write path text => flagged (s.write path text)
  | .remove path => flagged (s.remove path)
  | .list => (.listing (s.machine.files.volume.listing s.machine.here), s)
  | .sleep milliseconds => (.nothing, s.pass (1000 * milliseconds))
  | .countDescriptors =>
    (.number ((s.machine.descriptors.length : Int) - s.descriptors), s)
  | .untilNoneEnded => flagged (s.watch noneEnded)

/-- The session after several actions, and what comes of each. -/
def actAll (s : Session) : List Action → List Reply × Session
  | [] => ([], s)
  | a :: rest =>
    let (reply, s) := s.act a
    let (replies, s) := s.actAll rest
    (reply :: replies, s)

end Launcher.Session
