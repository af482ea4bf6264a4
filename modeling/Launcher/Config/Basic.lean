import Launcher.Config.Draft
import Launcher.Fault
import Launcher.Text.WhiteSpace
/-!
# Checked configurations

A draft is turned into a configuration by a check of six rules. When several are broken, the
fault is that of the first in their order.

## Main definitions

* `Launcher.ConfigFault` — a broken rule.
* `Launcher.Draft.fault?` — the first rule that a draft breaks.
* `Launcher.Config` — a draft that breaks none of the rules that do not ask for a directory.
* `Launcher.Draft.build` — the check.

## Main results

* `Launcher.ConfigFault.eq_of_reason_eq` — each rule has a reason of its own.
* `Launcher.Draft.build_eq_ok_iff` — what the check accepts is the draft itself, when no rule is
  broken.
-/

namespace Launcher

/-- A broken rule of a draft. -/
inductive ConfigFault where
  /-- There is nothing but white space in the command line. -/
  | emptyCommandLine
  /-- There is a NUL in the command line. -/
  | nulInCommandLine
  /-- A stream is redirected and the process would not receive it. -/
  | redirectNotInherited
  /-- A new console and none at all. -/
  | consoleConflict
  /-- A new console without a window. -/
  | windowConflict
  /-- The working directory is none. -/
  | noWorkingDirectory (directory : String)
  deriving Repr, DecidableEq

namespace ConfigFault

/-- The reason given for a broken rule. -/
def reason : ConfigFault → String
  | emptyCommandLine => "Command line cannot be empty"
  | nulInCommandLine => "Command line cannot contain NUL characters"
  | redirectNotInherited =>
    "Redirected stdio requires inherit_handles, the child would not receive the handles"
  | consoleConflict => "new_console and detached_console are mutually exclusive"
  | windowConflict => "no_window has no effect together with new_console"
  | noWorkingDirectory directory => "Working directory does not exist: " ++ directory

/-- The reason that names a directory begins like no other. -/
theorem head?_reason_noWorkingDirectory (directory : String) :
    (noWorkingDirectory directory).reason.toList.head? = some 'W' := by
  have hhead : "Working directory does not exist: ".toList.head? = some 'W' := by decide +kernel
  show ("Working directory does not exist: " ++ directory).toList.head? = _
  simp only [String.toList_append, List.head?_append, hhead, Option.some_or]

/-- **Each rule has a reason of its own**, and the directory can be read off the reason that names one. -/
theorem eq_of_reason_eq {f g : ConfigFault} (h : f.reason = g.reason) : f = g := by
  have hhead : f.reason.toList.head? = g.reason.toList.head? := by rw [h]
  cases f with
  | noWorkingDirectory directory =>
    rw [head?_reason_noWorkingDirectory] at hhead
    cases g with
    | noWorkingDirectory directory' =>
      exact congrArg noWorkingDirectory ((String.append_right_inj _).1 h)
    | _ => exact absurd hhead (by decide +kernel)
  | _ =>
    cases g with
    | noWorkingDirectory directory' =>
      rw [head?_reason_noWorkingDirectory] at hhead
      exact absurd hhead (by decide +kernel)
    | _ => revert h; decide +kernel

/-- A broken rule as a failed launch. -/
def toFault (f : ConfigFault) : Fault :=
  .configuration f.reason

end ConfigFault

namespace Draft

/-- The first broken rule among those that do not ask for a directory. -/
def staticFault? (d : Draft) : Option ConfigFault :=
  if Text.isBlankText d.commandLine then some .emptyCommandLine
  else if d.commandLine.toList.contains '\x00' then some .nulInCommandLine
  else if d.redirectsStreams && !d.inheritHandles then some .redirectNotInherited
  else if d.creation.newConsole && d.creation.detachedConsole then some .consoleConflict
  else if d.creation.newConsole && d.creation.noWindow then some .windowConflict
  else none

/-- The first broken rule. `isDirectory` tells which paths are directories. -/
def fault? (isDirectory : String → Bool) (d : Draft) : Option ConfigFault :=
  match d.staticFault?, d.workingDirectory with
  | some fault, _ => some fault
  | none, some directory =>
    if isDirectory directory then none else some (.noWorkingDirectory directory)
  | none, none => none

end Draft

/-- A draft that has passed the check. Its working directory was one when it was checked, and
may be gone since; all else holds for good. -/
structure Config where
  /-- What the configuration says. -/
  draft : Draft
  /-- No rule on the command line, the streams and the flags is broken. -/
  sound : draft.staticFault? = none

namespace Config

instance : Repr Config := ⟨fun c n => reprPrec c.draft n⟩

/-- The command to start. -/
def commandLine (c : Config) : String := c.draft.commandLine

/-- What is done with the process once it exists. -/
def completion (c : Config) : Completion := c.draft.completion

/-- The process is to lead a group of its own. -/
def ownGroup (c : Config) : Bool :=
  c.draft.creation.newProcessGroup || c.draft.creation.detachedConsole

/-- A config is its draft. -/
@[ext]
theorem ext {c c' : Config} (h : c.draft = c'.draft) : c = c' := by
  cases c; cases c'; cases h; rfl

end Config

namespace Draft

/-- A draft that passes the whole check passes its first part, which asks for no directory. -/
theorem staticFault?_of_fault? {isDirectory : String → Bool} {d : Draft}
    (h : d.fault? isDirectory = none) : d.staticFault? = none := by
  unfold fault? at h
  split at h <;> simp_all

/-- The configuration of a draft, or the first rule that it breaks. -/
def build (isDirectory : String → Bool) (d : Draft) : Except ConfigFault Config :=
  match h : d.fault? isDirectory with
  | some fault => .error fault
  | none => .ok ⟨d, staticFault?_of_fault? h⟩

/-- The check accepts a draft exactly when no rule is broken, and changes nothing in it. -/
theorem build_eq_ok_iff {isDirectory : String → Bool} {d : Draft} {c : Config} :
    d.build isDirectory = .ok c ↔ d.fault? isDirectory = none ∧ c.draft = d := by
  unfold build
  split
  · rename_i fault h
    simp [h]
  · rename_i h
    constructor
    · intro hc
      cases hc
      exact ⟨h, rfl⟩
    · rintro ⟨-, hc⟩
      exact congrArg Except.ok (Config.ext hc.symm)

/-- The check refuses a draft with the first rule that is broken. -/
theorem build_eq_error_iff {isDirectory : String → Bool} {d : Draft} {fault : ConfigFault} :
    d.build isDirectory = .error fault ↔ d.fault? isDirectory = some fault := by
  unfold build
  split <;> simp_all

end Draft

end Launcher
