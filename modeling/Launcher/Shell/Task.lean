import Launcher.Shell.Parse
/-!
# What a shell still has to do

A shell runs a script step by step. Between two steps, what is left to be done is a list of tasks:
parts of the script, and what depends on how they end.

## Main definitions

* `Launcher.Shell.Task` — a task.
* `Launcher.Shell.State` — the parameters of a shell and its tasks.
* `Launcher.Shell.State.unfold` — a step that only rearranges tasks.
-/

namespace Launcher.Shell

/-- Where the descriptors of a process lead: each to an open file, by its number. -/
abbrev Descriptors := List (Nat × Nat)

/-- Something that a shell has to do. -/
inductive Task where
  | run (script : Script)
  /-- Runs a script if the last command has succeeded, or has failed. -/
  | after (success : Bool) (script : Script)
  | negate
  | choose (yes no : Script)
  /-- The condition of a loop has been run. -/
  | decide (condition body : Script) (success : Bool)
  /-- The body of a loop over words has been run. -/
  | each (name : String) (words : List String) (body : Script)
  /-- The body of a loop has been run. -/
  | again (condition body : Script) (success : Bool)
  /-- The descriptors are put back. -/
  | restore (descriptors : Descriptors)
  /-- A child is waited for. -/
  | await (child : Nat)
  /-- All that a child writes is read from an open file. It goes into the words of a script, before
  which a command had ended with this status. -/
  | gather (number child status : Nat) (script : Script)
  /-- A text that a child has written goes into the words of a script. -/
  | fill (text : String) (status : Nat) (script : Script)
  deriving Repr

/-- A shell between two steps. -/
structure State where
  scope : Scope
  tasks : List Task
  /-- The last command may take the place of the shell. -/
  yields : Bool := false
  deriving Repr

namespace State

/-- The last command has succeeded. -/
def succeeded (s : State) : Bool :=
  s.scope.status == 0

/-- The state after a command that has ended. -/
def ended (s : State) (status : Nat) : State :=
  { s with scope := { s.scope with status } }

/-- The state with more to do first. -/
def push (s : State) (tasks : List Task) : State :=
  { s with tasks := tasks ++ s.tasks }

/-- The open files that are left to be used: under descriptors that are put back, or to be read. -/
def saved (s : State) : List Nat :=
  s.tasks.flatMap fun
    | .restore descriptors => descriptors.map Prod.snd
    | .gather number _ _ _ => [number]
    | _ => []

/-- A task is what a loop comes back to. -/
def isLoop : Task → Bool
  | .decide _ _ _ | .each _ _ _ | .again _ _ _ => true
  | _ => false

/-- The state after a loop has been left. Redirections inside of it are undone. -/
def leaveLoop (s : State) : State :=
  let inside := s.tasks.takeWhile fun t => !isLoop t
  let restores := inside.filter fun t => t matches .restore _
  { s with tasks := restores ++ (s.tasks.drop inside.length).drop 1 }

/-- The state after a loop has been sent to its next round. -/
def nextRound (s : State) : State :=
  let inside := s.tasks.takeWhile fun t => !isLoop t
  let restores := inside.filter fun t => t matches .restore _
  { s with tasks := restores ++ s.tasks.drop inside.length }

/-- The tasks of a script that is put together from others, when it needs no more than this. -/
def unfold (s : State) : Script → Option State
  | .skip => some s
  | .sequence first second => some (s.push [.run first, .run second])
  | .both first second => some (s.push [.run first, .after true second])
  | .either first second => some (s.push [.run first, .after false second])
  | .negate body => some (s.push [.run body, .negate])
  | .choose condition yes no => some (s.push [.run condition, .choose yes no])
  | .loop condition body success => some (s.push [.run condition, .decide condition body success])
  | .each name words body => some ((s.ended 0).push [.each name (s.scope.expand words) body])
  | .grouped body [] => some (s.push [.run body])
  | _ => none

end State

end Launcher.Shell
