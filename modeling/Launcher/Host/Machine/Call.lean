import Launcher.Host.Machine.Basic
/-!
# Calls to a machine

## Main definitions

* `Launcher.Host.Machine.immediate` — the answer to a call as things stand.
-/

namespace Launcher.Host.Machine

/-! ## Descriptors -/

/-- The launcher may have so many more descriptors. -/
def hasRoom (m : Machine) (count : Nat) : Bool :=
  match m.limit with
  | some limit => m.descriptors.length + count ≤ limit
  | none => true

/-- A descriptor that the launcher does not use. -/
def freeDescriptor (m : Machine) : Descriptor :=
  (m.descriptors.map fun entry => entry.1 + 1).foldl max 0

/-- The launcher gets a descriptor for an open file. -/
def hold (m : Machine) (number : Nat) : Descriptor × Machine :=
  (m.freeDescriptor, { m with descriptors := m.descriptors ++ [(m.freeDescriptor, number)] })

/-- A path that names no file has a NUL in it. -/
def isBroken (path : String) : Bool :=
  path.toList.contains '\x00'

/-- Opens a file for the launcher. -/
def openOwn (m : Machine) (path : String) (mode : OpenMode) : Except IoFault Descriptor × Machine :=
  if isBroken path then (.error .nulInPath, m)
  else if !m.hasRoom 1 then (.error (.refused .tooManyFiles), m)
  else
    match m.openFor m.own m.here path mode with
    | .ok (number, m) =>
      let (descriptor, m) := m.hold number
      (.ok descriptor, m)
    | .error e => (.error (.refused e), m)

/-- Reads a file for the launcher. -/
def readOwn (m : Machine) (path : String) : Except IoFault String :=
  if isBroken path then .error .nulInPath
  else if !m.hasRoom 1 then .error (.refused .tooManyFiles)
  else
    match m.files.volume.read m.here path with
    | .error e => .error (.refused e)
    | .ok bytes =>
      match Text.Utf8.decode? bytes with
      | some text => .ok text
      | none => .error .notText

/-! ## Starting -/

/-- Where a new process starts. -/
def startPlace (m : Machine) (directory : Option String) : Except Errno Location :=
  match directory with
  | none => .ok m.here
  | some path =>
    match m.files.volume.find m.here path with
    | .error e => .error e
    | .ok (.free _) => .error .noEntry
    | .ok (.present b) => if b.node = .directory then .ok b.location else .error .notDirectory

/-- The open file under a standard stream of a new process. -/
def streamFile (m : Machine) (own : Descriptor) (r : Redirect) : Option Nat × Machine :=
  match r with
  | .inherit => (m.descriptors.lookup own, m)
  | .file descriptor => (m.descriptors.lookup descriptor, m)
  | .discard =>
    let (number, files) := m.files.openNull
    (some number, { m with files })

/-- The descriptors of a new process. -/
def streamFiles (m : Machine) (s : Streams) : Shell.Descriptors × Machine :=
  let (stdin, m) := m.streamFile 0 s.stdin
  let (stdout, m) := m.streamFile 1 s.stdout
  let (stderr, m) := m.streamFile 2 s.stderr
  ([(0, stdin), (1, stdout), (2, stderr)].filterMap fun (d, number) => number.map fun n => (d, n), m)

/-- Starts a process for the launcher. While it is started, each stream that leads to nowhere takes
a descriptor. -/
def startOwn (m : Machine) (p : Start) : Except Errno Pid × Machine :=
  if !m.hasRoom ((p.streams.toList.filter (· == .discard)).length) then (.error .tooManyFiles, m)
  else
    let found := do
      let here ← m.startPlace p.directory
      pure (here, ← m.files.volume.lookUp here p.program p.arguments)
    match found with
    | .error e => (.error e, m)
    | .ok (here, image) =>
      let (descriptors, m) := m.streamFiles p.streams
      let (pid, m) := m.fork m.own
        { pid := 0, here, descriptors, work := .image image, due := none, refusals := m.refusals }
      (.ok pid, if p.ownGroup then { m with table := m.table.lead pid } else m)

/-! ## Children and signals -/

/-- The refusal of a kind of call. A refused call does nothing, and if the refusal gives success for a
reason, the caller does not notice. -/
def refusal? (m : Machine) (kind : Refusable) : Option Errno :=
  (m.refusals.find? fun r => r.1 == kind).map Prod.snd

/-- A child of the launcher, by its number. -/
def child? (m : Machine) (pid : Pid) : Option Entry :=
  (m.table.find? pid).filter fun e => e.parent == m.own

/-- Collects a child of the launcher if it has ended. -/
def pollOwn (m : Machine) (pid : Pid) : Except Errno (Option WaitStatus) × Machine :=
  match m.child? pid with
  | none => (.error .noChild, m)
  | some e =>
    match e.life with
    | .ended status => (.ok (some status), { m with table := m.table.collect pid })
    | _ => (.ok none, m)

/-- Ends processes for the launcher. -/
def killOwn (m : Machine) (pids : List Pid) : Except Errno Unit × Machine :=
  match m.refusal? .kill with
  | some e => (if e = .success then .ok () else .error e, m)
  | none =>
    if pids.isEmpty then (.error .noProcess, m) else (.ok (), m.send killSignal pids endTime)

/-! ## Printing -/

/-- Prints a line for the launcher. Where its standard output leads to nothing that can be written,
nothing is printed and that is no failure. -/
def printOwn (m : Machine) (line : String) : Except IoFault Unit × Machine :=
  let bytes := Text.Utf8.encode (line ++ "\n")
  match (m.descriptors.lookup 1).map fun number => m.files.write number bytes with
  | some (.ok files) => (.ok (), { m with files })
  | some (.error e) => (if e = .badDescriptor then .ok () else .error (.refused e), m)
  | none => (.ok (), m)

/-! ## Answers -/

/-- The answer to a call as things stand. A call that would have to wait is broken off. -/
def immediate (m : Machine) : (c : Call) → c.Answer × Machine
  | .isDirectory path => (m.files.volume.isDirectory m.here path, m)
  | .readText path => (m.readOwn path, m)
  | .openFile path mode => m.openOwn path mode
  | .duplicate descriptor =>
    match m.descriptors.lookup descriptor with
    | none => (.error .badDescriptor, m)
    | some number =>
      if m.hasRoom 1 then
        let (descriptor, m) := m.hold number
        (.ok descriptor, m)
      else (.error .tooManyFiles, m)
  | .close descriptor =>
    ((), { m with descriptors := m.descriptors.filter fun entry => entry.1 != descriptor })
  | .start process => m.startOwn process
  | .groupOf pid =>
    match m.refusal? .groupOf, m.table.find? pid with
    | some e, _ => (if e = .success then .ok 0 else .error e.symbolic, m)
    | none, some e => (.ok e.group, m)
    | none, none => (.error .noProcess, m)
  | .kill pid => m.killOwn ((m.table.find? pid).map Entry.pid).toList
  | .killGroup group =>
    let (answer, m) := m.killOwn ((m.table.members group).map Entry.pid)
    (answer.mapError Errno.symbolic, m)
  | .wait pid =>
    match m.pollOwn pid with
    | (.ok (some status), m) => (.ok status, m)
    | (.ok none, m) => (.error .interrupted, m)
    | (.error e, m) => (.error e, m)
  | .poll pid => m.pollOwn pid
  | .pollFor pid _ => m.pollOwn pid
  | .adopt pid => ((), { m with reaper := m.reaper.adopt pid })
  | .isElevated => (true, m)
  | .print line => m.printOwn line

end Launcher.Host.Machine
