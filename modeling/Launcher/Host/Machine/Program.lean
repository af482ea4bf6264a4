import Launcher.Host.Machine.Basic
import Launcher.Shell.Builtin
/-!
# The programs of a machine

## Main definitions

* `Launcher.Host.Machine.runProgram` — what a program other than the shell does when it is run.
* `Launcher.Host.Machine.beginShell` — how a shell begins.
-/

namespace Launcher.Host.Machine

open Shell (echoed formatted duration?)

/-! ## Copying -/

/-- The number of the open file under a descriptor of a process. -/
def opened? (a : Agent) (descriptor : Nat) : Except Errno Nat :=
  match a.descriptors.lookup descriptor with
  | some number => .ok number
  | none => .error .badDescriptor

/-- Two open files lead to the same file, and the first has something left to read. -/
def feedsItself (f : Files) (source target : Nat) : Bool :=
  match f.opened[source]?, f.opened[target]? with
  | some s, some t =>
    match s.channel, t.channel with
    | .file n, .file n' => n == n' && s.offset < (f.volume.bytes n).length
    | _, _ => false
  | _, _ => false

/-- Copies an open file to the standard output of a process. -/
def copyFrom (m : Machine) (a : Agent) (name : String) (source : Nat) : Machine × Bool :=
  match m.files.readAll source with
  | .error e => (m.complain a ("cat: " ++ name ++ ": " ++ e.sentence), false)
  | .ok (bytes, files) =>
    if (opened? a 1).toOption.any (feedsItself m.files source) then
      (m.complain a ("cat: " ++ name ++ ": input file is output file"), false)
    else if bytes.isEmpty then (m, true)
    else
      match ({ m with files } : Machine).writeTo a 1 bytes with
      | .ok m => (m, true)
      | .error e => (m.writeFailed a e ("cat: write error: " ++ e.sentence), false)

/-- Copies a file, or standard input, to the standard output of a process. -/
def copy (m : Machine) (a : Agent) (name : String) : Machine × Bool :=
  let source : Except Errno (Nat × Machine) :=
    if name == "-" then (opened? a 0).map fun number => (number, m)
    else m.openFor a.pid a.here name .read
  match source with
  | .ok (number, m) => m.copyFrom a name number
  | .error e => (m.complain a ("cat: " ++ name ++ ": " ++ e.sentence), false)

/-- Copies the first of some files to the standard output of a process. From a pipe, it takes what
is there, and comes back for more until there is no more to come. -/
def stepCopy (m : Machine) (a : Agent) (names : List String) (good : Bool) : Machine :=
  match names with
  | [] => m.endAfter a (if good then 0 else 1) endTime
  | name :: rest =>
    let source := if name == "-" then (opened? a 0).toOption else none
    if source.any m.isEmptyYet then m.retry a (.copying names good)
    else
      let again := source.any m.hasSource
      let (m, copied) := m.copy a name
      m.put { a with
        work := .copying (if again && copied then names else rest) (good && copied)
        due := some (m.now + stepTime) }

/-! ## Programs -/

/-- Writes bytes to standard output and ends. -/
def writeAndEnd (m : Machine) (a : Agent) (name : String) (bytes : List UInt8) : Machine :=
  match m.writeTo a 1 bytes with
  | .ok m => m.endAfter a 0 endTime
  | .error e => (m.writeFailed a e (name ++ ": write error: " ++ e.sentence)).endAfter a 1 endTime

/-- Sleeps for the sum of some durations, and ends. -/
def sleepAndEnd (m : Machine) (a : Agent) (words : List String) : Machine :=
  if words.isEmpty then (m.complain a "sleep: missing operand").endAfter a 1 endTime
  else
    match words.find? fun w => (duration? w).isNone with
    | some word =>
      (m.complain a ("sleep: invalid time interval ‘" ++ word ++ "’")).endAfter a 1 endTime
    | none => m.endAfter a 0 ((words.filterMap duration?).foldl (· + ·) endTime)

/-- Runs a program other than the shell. -/
def runProgram (m : Machine) (a : Agent) (image : Image) : Machine :=
  match image.program with
  | .succeed => m.endAfter a 0 endTime
  | .fail => m.endAfter a 1 endTime
  | .sleep => m.sleepAndEnd a image.arguments
  | .echo => m.writeAndEnd a "echo" (echoed false image.arguments)
  | .printf =>
    match formatted image.arguments with
    | some bytes => m.writeAndEnd a "printf" bytes
    | none => (m.complain a "printf: missing operand").endAfter a 1 endTime
  | .cat =>
    m.stepCopy a (if image.arguments.isEmpty then ["-"] else image.arguments) true
  | .shell => m

/-! ## Beginning a shell -/

/-- The code of a shell that cannot run its script. -/
def shellFault : Nat := 2

/-- A shell begins to run the text of a script. -/
def beginScript (m : Machine) (a : Agent) (name : String) (arguments : List String)
    (yields : Bool) (text : String) : Machine :=
  match Shell.Script.ofText? text with
  | none => (m.complain a (name ++ ": 1: Syntax error")).endAfter a shellFault endTime
  | some script =>
    let parent := ((m.table.find? a.pid).map Entry.parent).getD 0
    m.resume a
      { scope := { name, arguments, pid := a.pid, parent }, tasks := [.run script], yields }

/-- A shell begins to run a script from an open file. -/
def beginFile (m : Machine) (a : Agent) (name : String) (arguments : List String)
    (number : Nat) : Machine :=
  match m.files.readAll number with
  | .ok (bytes, files) =>
    ({ m with files } : Machine).beginScript a name arguments false
      (Text.Utf8.decodeLossy bytes)
  | .error _ => m.endAfter a shellFault endTime

/-- A shell begins, as its arguments say: with a text, with a file, or with its input. -/
def beginShell (m : Machine) (a : Agent) (image : Image) : Machine :=
  match image.arguments with
  | "-c" :: text :: rest =>
    m.beginScript a (rest.headD image.name) (rest.drop 1) true text
  | ["-c"] =>
    (m.complain a (image.name ++ ": 0: -c requires an argument")).endAfter a shellFault endTime
  | file :: arguments =>
    match m.openFor a.pid a.here file .read with
    | .ok (number, m) => m.beginFile a file arguments number
    | .error _ =>
      (m.complain a (image.name ++ ": 0: cannot open " ++ file ++ ": No such file")).endAfter a
        shellFault endTime
  | [] =>
    match opened? a 0 with
    | .ok number =>
      if m.hasSource number then m.retry a (.image image) else m.beginFile a image.name [] number
    | .error _ => m.endAfter a 0 endTime

end Launcher.Host.Machine
