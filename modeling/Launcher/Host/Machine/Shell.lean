import Launcher.Host.Machine.Program
/-!
# The shell of a machine

## Main definitions

* `Launcher.Host.Machine.builtin?` — the commands that a shell runs itself.
* `Launcher.Host.Machine.runCommand` — a simple command.
* `Launcher.Host.Machine.stepShell` — a step of a shell.
-/

namespace Launcher.Host.Machine

open Shell (State Scope Script Redirection Task Descriptors count? echoed formatted killTargets?)

/-! ## Complaints -/

/-- The text of a complaint of a shell. -/
def complaint (s : State) (text : String) : String :=
  s.scope.name ++ ": 1: " ++ text

/-- Why a file could not be opened. -/
def openReason (e : Errno) (creates : Bool) : String :=
  if e = .noEntry || e = .notDirectory then
    if creates then "Directory nonexistent" else "No such file"
  else e.sentence

/-- Why a program could not be run, and the code that stands for it. -/
def runReason (e : Errno) : String × Nat :=
  if e = .noEntry || e = .notDirectory then ("not found", 127) else (e.sentence, 126)

/-! ## Redirections -/

/-- The descriptors with another open file under one. -/
def lead (d : Descriptors) (descriptor number : Nat) : Descriptors :=
  (descriptor, number) :: d.filter fun entry => entry.1 != descriptor

/-- A process after a redirection, or why that is not possible. -/
def redirect (m : Machine) (a : Agent) (scope : Scope) (r : Redirection) :
    Except String (Machine × Agent) :=
  let target := scope.expandWhole r.target
  let opening (mode : OpenMode) : Except String (Machine × Agent) :=
    match m.openFor a.pid a.here target mode with
    | .ok (number, m) => .ok (m, { a with descriptors := lead a.descriptors r.descriptor number })
    | .error e =>
      let creates := mode ≠ .read
      .error ("cannot " ++ (if creates then "create " else "open ") ++ target ++ ": " ++
        openReason e creates)
  match r.direction with
  | .input => opening .read
  | .output => opening .create
  | .append => opening .append
  | .same =>
    if target == "-" then
      .ok (m, { a with descriptors := a.descriptors.filter fun entry => entry.1 != r.descriptor })
    else
      match target.toNat?.bind fun n => a.descriptors.lookup n with
      | some number =>
        .ok (m, { a with descriptors := lead a.descriptors r.descriptor number })
      | none => .error (target ++ ": Bad file descriptor")

/-- A process after redirections, or why one of them is not possible. -/
def redirectAll (m : Machine) (a : Agent) (scope : Scope) (rs : List Redirection) :
    Except String (Machine × Agent) :=
  rs.foldlM (fun (m, a) r => m.redirect a scope r) (m, a)

/-! ## Commands of the shell itself -/

/-- What is left of a command that a shell has run itself: the machine, the process and the state
of its shell. -/
structure Turn where
  machine : Machine
  agent : Agent
  state : State

namespace Turn

/-- The command has ended. -/
def ended (t : Turn) (status : Nat) : Turn :=
  { t with state := t.state.ended status }

/-- The command has failed with a complaint. -/
def failed (t : Turn) (text : String) (status : Nat) : Turn :=
  { t with machine := t.machine.complain t.agent (complaint t.state text) }.ended status

/-- The command has written to standard output. -/
def wrote (t : Turn) (name : String) (bytes : List UInt8) : Turn :=
  match t.machine.writeTo t.agent 1 bytes with
  | .ok machine => { t with machine }.ended 0
  | .error e =>
    if e = .brokenPipe then { t with machine := t.machine.send brokenPipeSignal [t.agent.pid] 0 }
    else t.failed (name ++ ": " ++ name ++ ": I/O error") 1

/-- The script has got other arguments. -/
def named (t : Turn) (arguments : List String) : Turn :=
  { t with state := { t.state with scope := { t.state.scope with arguments } } }.ended 0

/-- The shell is left. -/
def exited (t : Turn) (status : Nat) : Turn :=
  { t with state := { t.state with tasks := [] } }.ended status

end Turn

/-- What is at a path, for a condition. -/
def kindAt (m : Machine) (a : Agent) (path : String) : Option Shell.Kind :=
  match m.processAt? a.pid (Volume.locate a.here path) with
  | some (_, []) => some .directory
  | some (_, ["stat"]) => some (.file 0)
  | _ =>
    match m.files.volume.find a.here path with
    | .ok (.present b) =>
      match b.node with
      | .directory => some .directory
      | .file number => some (.file (m.files.volume.bytes number).length)
      | .program _ => some (.file 1)
      | .null | .full => some .other
    | _ => none

/-- A condition is tested. -/
def testing (t : Turn) (words : List String) : Turn :=
  match Shell.test? (t.machine.kindAt t.agent) words with
  | some holds => t.ended (if holds then 0 else 1)
  | none => t.failed "[: unexpected operator" 2

/-- The words of a line for so many variables; the last one takes the rest of the line. -/
def lineWords : (count : Nat) → List Char → List String
  | 0, _ => []
  | 1, line =>
    let trimmed := (line.dropWhile Char.isWhitespace).reverse.dropWhile Char.isWhitespace
    [String.ofList trimmed.reverse]
  | count + 1, line =>
    let line := line.dropWhile Char.isWhitespace
    let word := line.takeWhile fun c => !c.isWhitespace
    String.ofList word :: lineWords count (line.drop word.length)

/-- A line of standard input is read into variables. -/
def reading (t : Turn) (words : List String) : Turn :=
  let (raw, names) := match words with
    | "-r" :: rest => (true, rest)
    | rest => (false, rest)
  match (opened? t.agent 0).bind t.machine.files.readLine with
  | .error _ => t.ended 1
  | .ok (line, ended, files) =>
    let text := (Text.Utf8.decodeLossy line).toList
    let text := if raw then text else text.filter (· != '\\')
    let scope := (names.zip (lineWords names.length text)).foldl
      (fun (s : Scope) (name, value) => s.assign name value) t.state.scope
    { t with
      machine := { t.machine with files }
      state := { t.state with scope } }.ended (if ended then 0 else 1)

/-- A signal is sent to a process, or to a group for a negative number. -/
def sending (t : Turn) (signal : Nat) (target : Int) : Turn :=
  let m := t.machine
  let group := if target = 0 then ((m.table.find? t.agent.pid).map Entry.group).getD 0
    else target.natAbs
  let pids :=
    if 0 < target then ((m.table.find? target.toNat).map Entry.pid).toList
    else (m.table.members group).map Entry.pid
  match t.agent.refusals.find? fun r => r.1 == .kill with
  | some (_, e) => if e = .success then t else t.failed ("kill: " ++ e.sentence) 1
  | none =>
    if pids.isEmpty then t.failed "kill: No such process" 1
    else
      let others := pids.filter (· != t.agent.pid)
      let m := m.send signal others endTime
      { t with machine := if pids.contains t.agent.pid then m.send signal [t.agent.pid] 0 else m }

/-- Signals are sent. -/
def killing (t : Turn) (words : List String) : Turn :=
  match killTargets? words with
  | some (signal, targets) => targets.foldl (fun t target => sending t signal target) (t.ended 0)
  | none => t.failed "kill: Illegal number" 2

/-- The shell goes to another directory. -/
def goingTo (t : Turn) (path : String) : Turn :=
  match t.machine.files.volume.find t.agent.here path with
  | .ok (.present b) =>
    if b.node = .directory then { t with agent := { t.agent with here := b.location } }.ended 0
    else t.failed ("cd: can't cd to " ++ path) 2
  | _ => t.failed ("cd: can't cd to " ++ path) 2

/-- A variable is given a value by a word with an equals sign. -/
def exporting (s : Scope) (word : String) : Scope :=
  match word.toList.span (· != '=') with
  | (name, '=' :: value) => s.assign (String.ofList name) (String.ofList value)
  | _ => s

/-- A shell runs a command itself, if it is one of its own. -/
def builtin? (t : Turn) (name : String) (words : List String) : Option Turn :=
  let s := t.state
  match name with
  | ":" | "true" => some (t.ended 0)
  | "false" => some (t.ended 1)
  | "echo" => some (t.wrote "echo" (echoed true words))
  | "printf" => some <|
    match formatted words with
    | some bytes => t.wrote "printf" bytes
    | none => t.failed "printf: usage: printf format [arg ...]" 2
  | "exit" => some <|
    match words with
    | [] => t.exited s.scope.status
    | word :: _ =>
      match count? word with
      | some n => t.exited (n % 256)
      | none => (t.failed ("exit: Illegal number: " ++ word) 2).exited 2
  | "test" => some (testing t words)
  | "[" => some <|
    if words.getLast? == some "]" then testing t words.dropLast
    else t.failed "[: missing ]" 2
  | "read" => some (reading t words)
  | "kill" => some (killing t words)
  | "cd" => some <|
    match words with
    | [] => t.ended 0
    | path :: _ => goingTo t path
  | "pwd" => some (t.wrote "pwd" (Text.Utf8.encode
      ("/" ++ "/".intercalate t.agent.here ++ "\n")))
  | "shift" =>
    let count := ((words.head?).bind count?).getD 1
    if s.scope.arguments.length < count then some (t.failed "shift: can't shift that many" 2)
    else
      let scope := { s.scope with arguments := s.scope.arguments.drop count }
      some ({ t with state := { s with scope } }.ended 0)
  | "set" => some <|
    match words with
    | "--" :: arguments => t.named arguments
    | word :: _ => if word.startsWith "-" || word.startsWith "+" then t.ended 0 else t.named words
    | [] => t.ended 0
  | "export" | "readonly" =>
    some ({ t with state := { s with scope := words.foldl exporting s.scope } }.ended 0)
  | "unset" =>
    let named := s.scope.named.filter fun v => !words.contains v.1
    some ({ t with state := { s with scope := { s.scope with named } } }.ended 0)
  | "break" => some ({ t with state := s.leaveLoop }.ended 0)
  | "continue" => some ({ t with state := s.nextRound }.ended 0)
  | "trap" => some (t.ended 0)
  | "umask" => some (if words.isEmpty then t.wrote "umask" (Text.Utf8.encode "0022\n") else t.ended 0)
  | "eval" => some <|
    match Script.ofText? (" ".intercalate words) with
    | some script => { t with state := (s.ended 0).push [.run script] }
    | none => (t.failed "Syntax error" 2).exited 2
  | _ => none

/-! ## Simple commands -/

/-- The image of a command. A file that is no program is taken for a script. -/
def commandImage (m : Machine) (a : Agent) (name : String) (words : List String) :
    Except Errno Image :=
  match m.files.volume.lookUp a.here name words with
  | .error e => if e = .notExecutable then .ok ⟨.shell, name, name :: words⟩ else .error e
  | found => found

/-- A command that the shell does not run itself: a new process runs it, and the shell waits, or
it takes the place of the shell. -/
def runOther (m : Machine) (a command : Agent) (s : State) (name : String)
    (words : List String) : Machine :=
  match m.commandImage a name words with
  | .error e =>
    let (reason, status) := runReason e
    (m.complain command (complaint s (name ++ ": " ++ reason))).resume a (s.ended status)
  | .ok image =>
    if s.yields && s.tasks.isEmpty then
      m.put { command with work := .image image, due := some (m.now + startTime) }
    else
      let (child, m) := m.fork a.pid { command with work := .image image }
      m.put { a with work := .awaits s (some child), due := none }

/-- The shell's place is taken by a command. -/
def replace (m : Machine) (command : Agent) (s : State) (name : String) (words : List String) :
    Machine :=
  match m.commandImage command name words with
  | .ok image => m.put { command with work := .image image, due := some (m.now + startTime) }
  | .error e =>
    let (reason, status) := runReason e
    (m.complain command (complaint s ("exec: " ++ name ++ ": " ++ reason))).endAfter command
      status endTime

/-- The shell waits for a child, or for all of them. -/
def waitingFor (m : Machine) (a : Agent) (s : State) (child : Option Pid) : Machine :=
  let a := { a with work := .awaits s child, due := none }
  (m.put a).rouse a

/-- A command with its words; `command` is the process with the redirections of the command. -/
def runWords (m : Machine) (a command : Agent) (s : State) (name : String)
    (words : List String) : Machine :=
  match name, words with
  | "exec", [] => m.resume command (s.ended 0)
  | "exec", name :: words => m.replace command s name words
  | "wait", words => m.waitingFor a s (words.head?.bind count?)
  | name, words =>
    match builtin? ⟨m, command, s⟩ name words with
    | some t => t.machine.resume { a with here := t.agent.here } t.state
    | none => m.runOther a command s name words

/-- How the last script in some words ended; without one, all is well. -/
def lastStatus (words : List Shell.Word) : Nat :=
  (words.reverse.findSome? Shell.Word.status?).getD 0

/-- The scope after assignments. -/
def assignAll (scope : Scope) (assignments : List (String × Shell.Word)) : Scope :=
  assignments.foldl (fun (s : Scope) (name, w) => s.assign name (s.expandWhole w)) scope

/-- A simple command. One that reads a line waits until there is one. -/
def runCommand (m : Machine) (a : Agent) (s : State) (assignments : List (String × Shell.Word))
    (words : List Shell.Word) (redirections : List Redirection) : Machine :=
  match m.redirectAll a s.scope redirections with
  | .error text => (m.complain a (complaint s text)).resume a (s.ended 2)
  | .ok (redirected, command) =>
    match s.scope.expand words with
    | [] =>
      let scope := assignAll s.scope assignments
      let status := lastStatus (words ++ redirections.map Redirection.target ++ assignments.map Prod.snd)
      redirected.resume a { s with scope := { scope with status } }
    | name :: others =>
      if name == "read" && (opened? command 0).toOption.any redirected.isUnfinished then
        m.retry a (.shell (s.push [.run (.simple assignments words redirections)]))
      else redirected.runWords a command s name others

/-! ## Compound commands -/

/-- A part of the script runs in a process of its own. -/
def runForked (m : Machine) (a command : Agent) (s : State) (body : Script) : Pid × Machine :=
  m.fork a.pid { command with
    work := .shell { scope := s.scope, tasks := [.run body], yields := true } }

/-- A process with another open file as its standard input, if there is one. -/
def fedFrom (a : Agent) (input : Option Nat) : Agent :=
  match input with
  | some number => { a with descriptors := lead a.descriptors 0 number }
  | none => a

/-- The parts of a pipeline begin, each in a process of its own: the first reads an open file, and
each other one what the one before it writes. -/
def startParts (m : Machine) (a : Agent) (s : State) :
    (input : Option Nat) → List Script → List Pid × Machine
  | _, [] => ([], m)
  | input, [part] =>
    let (pid, m) := m.runForked a (fedFrom a input) s part
    ([pid], m)
  | input, part :: rest =>
    let (reading, writing, files) := m.files.openPipe
    let command := fedFrom a input
    let command := { command with descriptors := lead command.descriptors 1 writing }
    let (pid, m) := ({ m with files } : Machine).runForked a command s part
    let (pids, m) := startParts m a s (some reading) rest
    (pid :: pids, m)

/-- A script in the words of a command runs in a process of its own. What it writes is gathered. -/
def runPending (m : Machine) (a : Agent) (s : State) (script : Script) (text : String) : Machine :=
  match Script.ofText? text with
  | none => (m.complain a (complaint s "Syntax error")).endAfter a shellFault endTime
  | some body =>
    let (reading, writing, files) := m.files.openPipe
    let command := { a with descriptors := lead a.descriptors 1 writing }
    let (child, m) := ({ m with files } : Machine).runForked a command s body
    m.resume a (s.push [.gather reading child s.scope.status script])

/-- A part of a script whose words hold no scripts. -/
def runPlain (m : Machine) (a : Agent) (s : State) (script : Script) : Machine :=
  match script with
  | .simple assignments words redirections => m.runCommand a s assignments words redirections
  | .piped _ _ =>
    let (children, m) := m.startParts a s none script.parts
    m.resume a (s.push (children.map .await))
  | .background body =>
    let (number, files) := m.files.openNull
    let (children, m) := ({ m with files } : Machine).startParts a s (some number) body.parts
    m.resume a { s with scope := { s.scope with status := 0, lastJob := children.getLast? } }
  | .forked body redirections =>
    match m.redirectAll a s.scope redirections with
    | .error text => (m.complain a (complaint s text)).resume a (s.ended 2)
    | .ok (m, command) =>
      let (child, m) := m.runForked a command s body
      m.resume a (s.push [.await child])
  | .grouped body redirections =>
    match m.redirectAll a s.scope redirections with
    | .error text => (m.complain a (complaint s text)).resume a (s.ended 2)
    | .ok (m, inside) => m.resume inside (s.push [.run body, .restore a.descriptors])
  | _ => m.resume a s

/-- A part of a script. Scripts in its words run before it. -/
def runScript (m : Machine) (a : Agent) (s : State) (script : Script) : Machine :=
  match script.pending?, s.unfold script with
  | some text, _ => m.runPending a s script text
  | none, some s => m.resume a s
  | none, none => m.runPlain a s script

/-- The text of what a script has written: without line feeds at its end. -/
def gathered (bytes : List UInt8) : String :=
  let bytes := bytes.filter (· != 0)
  Text.Utf8.decodeLossy (bytes.reverse.dropWhile (· == 10)).reverse

/-- A step of a shell: its first task. A shell without tasks ends. -/
def stepShell (m : Machine) (a : Agent) (s : State) : Machine :=
  match s.tasks with
  | [] => m.endAfter a s.scope.status endTime
  | task :: rest =>
    let s := { s with tasks := rest }
    match task with
    | .run script => m.runScript a s script
    | .after success script =>
      m.resume a (if s.succeeded == success then s.push [.run script] else s)
    | .negate => m.resume a (s.ended (if s.succeeded then 1 else 0))
    | .choose yes no => m.resume a ((s.ended 0).push [.run (if s.succeeded then yes else no)])
    | .decide condition body success =>
      m.resume a <|
        if s.succeeded == success then s.push [.run body, .again condition body success]
        else s.ended 0
    | .again condition body success =>
      m.resume a (s.push [.run condition, .decide condition body success])
    | .each _ [] _ => m.resume a s
    | .each name (word :: words) body =>
      m.resume a <|
        { s with scope := s.scope.assign name word }.push [.run body, .each name words body]
    | .restore descriptors => m.resume { a with descriptors } s
    | .await child => m.waitingFor a s (some child)
    | .gather number child status script =>
      if m.hasSource number then m.retry a (.shell (s.push [task]))
      else
        let text := gathered ((m.files.rest number).toOption.getD [])
        m.resume a (s.push [.await child, .fill text status script])
    | .fill text status script =>
      let filled := (script.fill? text s.scope.status).getD .skip
      m.resume a ((s.ended status).push [.run filled])

end Launcher.Host.Machine
