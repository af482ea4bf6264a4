import Launcher.Status
/-!
# What a launch is made of

A draft says which command to start, where, with which streams, and how. It is written field by
field, in any order and any number of times, and is checked only when it is turned into a
configuration (`Launcher.Draft.build`).

## Main definitions

* `Launcher.Redirect` — where a standard stream of the new process leads.
* `Launcher.Streams` — the redirects of all three.
* `Launcher.Creation` — the four flags of process creation.
* `Launcher.Draft` — everything a launch is made of.
* `Launcher.Setting`, `Launcher.Draft.apply` — one write to a draft.
* `Launcher.Draft.ofSettings` — a draft after a list of writes.
-/

namespace Launcher

/-- An open file of the launcher. -/
abbrev Descriptor := Nat

/-- A standard stream. -/
inductive Stream where
  | stdin
  | stdout
  | stderr
  deriving Repr, DecidableEq

/-- Where a standard stream of the new process leads. -/
inductive Redirect where
  /-- To where the launcher's own stream leads. -/
  | inherit
  /-- To nowhere: reading finds the end, writing is dropped. -/
  | discard
  /-- To an open file of the launcher. -/
  | file (descriptor : Descriptor)
  deriving Repr, DecidableEq

namespace Redirect

/-- The stream stays with the launcher's own. -/
def isInherit : Redirect → Bool
  | inherit => true
  | discard | file _ => false

/-- The open file of a redirect, if it leads to one. -/
def descriptor? : Redirect → Option Descriptor
  | file descriptor => some descriptor
  | inherit | discard => none

end Redirect

/-- Where the three standard streams of the new process lead. -/
structure Streams where
  /-- Standard input. -/
  stdin : Redirect := .inherit
  /-- Standard output. -/
  stdout : Redirect := .inherit
  /-- Standard error. -/
  stderr : Redirect := .inherit
  deriving Repr, DecidableEq, Inhabited

namespace Streams

/-- The redirects, in the order of the streams. -/
def toList (s : Streams) : List Redirect :=
  [s.stdin, s.stdout, s.stderr]

/-- The redirect of a stream. -/
def get (s : Streams) : Stream → Redirect
  | .stdin => s.stdin
  | .stdout => s.stdout
  | .stderr => s.stderr

/-- The streams with another redirect for one. -/
def set (s : Streams) (which : Stream) (r : Redirect) : Streams :=
  match which with
  | .stdin => { s with stdin := r }
  | .stdout => { s with stdout := r }
  | .stderr => { s with stderr := r }

/-- The open files that the streams lead to, in their order. -/
def descriptors (s : Streams) : List Descriptor :=
  s.toList.filterMap Redirect.descriptor?

/-- A stream that is set is the one that is got. -/
@[simp]
theorem get_set_self (s : Streams) (which : Stream) (r : Redirect) :
    (s.set which r).get which = r := by
  cases which <;> rfl

/-- Setting a stream leaves the others as they are. -/
theorem get_set_of_ne (s : Streams) {which other : Stream} (r : Redirect) (h : other ≠ which) :
    (s.set which r).get other = s.get other := by
  cases which <;> cases other <;> simp_all [get, set]

end Streams

/-- The flags of process creation. -/
structure Creation where
  /-- Give the process a console of its own. -/
  newConsole : Bool := false
  /-- Run a console process without a window. -/
  noWindow : Bool := false
  /-- Give the process no console at all. -/
  detachedConsole : Bool := false
  /-- Make the process the leader of a new group. -/
  newProcessGroup : Bool := false
  deriving Repr, DecidableEq, Inhabited

/-- Everything a launch is made of. -/
structure Draft where
  /-- The command to start. -/
  commandLine : String
  /-- Where the process starts; the launcher's own directory when absent. -/
  workingDirectory : Option String := none
  /-- Where the standard streams lead. -/
  streams : Streams := {}
  /-- The process receives the redirected streams. -/
  inheritHandles : Bool := false
  /-- The flags of process creation. -/
  creation : Creation := {}
  /-- Start with a hidden window. -/
  hideWindow : Bool := false
  /-- What is done with the process once it exists. -/
  completion : Completion := default
  deriving Repr, DecidableEq

/-- One write to a draft. -/
inductive Setting where
  | workingDirectory (directory : String)
  | stream (which : Stream) (redirect : Redirect)
  | inheritHandles (on : Bool)
  /-- Writes all four flags at once. -/
  | creation (flags : Creation)
  | newConsole (on : Bool)
  | noWindow (on : Bool)
  | detachedConsole (on : Bool)
  | newProcessGroup (on : Bool)
  | hideWindow (on : Bool)
  | completion (mode : Completion)
  /-- Writes the completion mode: wait, or track. -/
  | waitForCompletion (on : Bool)
  deriving Repr, DecidableEq

namespace Draft

/-- The draft of a command with nothing else said. -/
def ofCommand (commandLine : String) : Draft :=
  { commandLine }

/-- The draft after one write. -/
def apply (d : Draft) : Setting → Draft
  | .workingDirectory directory => { d with workingDirectory := some directory }
  | .stream which r => { d with streams := d.streams.set which r }
  | .inheritHandles on => { d with inheritHandles := on }
  | .creation flags => { d with creation := flags }
  | .newConsole on => { d with creation := { d.creation with newConsole := on } }
  | .noWindow on => { d with creation := { d.creation with noWindow := on } }
  | .detachedConsole on => { d with creation := { d.creation with detachedConsole := on } }
  | .newProcessGroup on => { d with creation := { d.creation with newProcessGroup := on } }
  | .hideWindow on => { d with hideWindow := on }
  | .completion mode => { d with completion := mode }
  | .waitForCompletion on => { d with completion := if on then .wait else .track }

/-- The draft of a command after a list of writes, the first write first. -/
def ofSettings (commandLine : String) (settings : List Setting) : Draft :=
  settings.foldl apply (ofCommand commandLine)

/-- Some stream leads elsewhere than the launcher's own. -/
def redirectsStreams (d : Draft) : Bool :=
  !d.streams.toList.all Redirect.isInherit

/-- No setting touches the command line. -/
@[simp]
theorem commandLine_apply (d : Draft) (s : Setting) :
    (d.apply s).commandLine = d.commandLine := by
  cases s <;> rfl

end Draft

end Launcher
