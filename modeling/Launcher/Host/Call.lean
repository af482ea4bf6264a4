import Launcher.Config.Draft
import Launcher.Host.Fault
import Launcher.Host.WaitStatus
/-!
# What is asked of the host

Whatever a launcher does to the world, it does by a call to the host, and each call has an answer
of its own type.

## Main definitions

* `Launcher.Host.Call` — a call.
* `Launcher.Host.Call.Answer` — the type of its answers.
* `Launcher.Host.Dialogue` — a finite tree of calls: after each answer it is known how to go on.
* `Launcher.Host.Dialogue.Run` — the calls and answers on one way through a dialogue.
* `Launcher.Host.Dialogue.play` — the way that is taken when some host answers.
-/

namespace Launcher.Host

/-- A process, by its number. -/
abbrev Pid := Nat

/-- How a file is opened. -/
inductive OpenMode where
  /-- For reading; it must exist. -/
  | read
  /-- For writing; it is created, or emptied. -/
  | create
  /-- For writing at its end; it is created if it does not exist. -/
  | append
  deriving Repr, DecidableEq

/-- A process to be started. -/
structure Start where
  /-- The program, by a path, or by a name that is looked for in the usual places. -/
  program : String
  /-- The arguments behind the name of the program. -/
  arguments : List String
  /-- Where it starts; where the launcher is, when absent. -/
  directory : Option String
  /-- The process leads a group of its own. -/
  ownGroup : Bool
  /-- Where its standard streams lead. -/
  streams : Streams
  deriving Repr, DecidableEq

/-- A call to the host. -/
inductive Call where
  /-- Is there a directory of this path? -/
  | isDirectory (path : String)
  /-- Read a file as a text. -/
  | readText (path : String)
  /-- Open a file. -/
  | openFile (path : String) (mode : OpenMode)
  /-- Make another descriptor of an open file. -/
  | duplicate (descriptor : Descriptor)
  /-- Close a descriptor. -/
  | close (descriptor : Descriptor)
  /-- Start a process. -/
  | start (process : Start)
  /-- Which group is a process in? -/
  | groupOf (pid : Pid)
  /-- End a process. -/
  | kill (pid : Pid)
  /-- End all processes of a group. -/
  | killGroup (group : Pid)
  /-- Wait until a child ends, and collect it. -/
  | wait (pid : Pid)
  /-- Collect a child if it has ended. -/
  | poll (pid : Pid)
  /-- Poll a child until it has ended or the time is over, given in milliseconds. -/
  | pollFor (pid : Pid) (limit : Nat)
  /-- Hand a child over to the reaper. -/
  | adopt (pid : Pid)
  /-- Does the launcher run with all privileges? -/
  | isElevated
  /-- Print a line. -/
  | print (line : String)
  deriving Repr, DecidableEq

/-- The answers to a call. -/
@[reducible]
def Call.Answer : Call → Type
  | isDirectory _ => Bool
  | readText _ => Except IoFault String
  | openFile _ _ => Except IoFault Descriptor
  | duplicate _ => Except Errno Descriptor
  | close _ => Unit
  | start _ => Except Errno Pid
  | groupOf _ => Except Errno Pid
  | kill _ => Except Errno Unit
  | killGroup _ => Except Errno Unit
  | wait _ => Except Errno WaitStatus
  | poll _ => Except Errno (Option WaitStatus)
  | pollFor _ _ => Except Errno (Option WaitStatus)
  | adopt _ => Unit
  | isElevated => Bool
  | print _ => Except IoFault Unit

/-! ## Dialogues -/

/-- A finite tree of calls that ends in values of `α`. -/
inductive Dialogue (α : Type) where
  | done (value : α)
  | ask (call : Call) (next : call.Answer → Dialogue α)

namespace Dialogue

variable {α β γ σ : Type}

/-- One dialogue after another. -/
def bind : Dialogue α → (α → Dialogue β) → Dialogue β
  | done value, f => f value
  | ask call next, f => ask call fun answer => bind (next answer) f

instance : Monad Dialogue where
  pure := done
  bind := bind

/-- The dialogue of one call. -/
def call (c : Call) : Dialogue c.Answer :=
  ask c done

/-- What is done goes on with its value. -/
@[simp]
theorem bind_done (value : α) (f : α → Dialogue β) : bind (done value) f = f value := rfl

/-- A call is made before what follows. -/
@[simp]
theorem bind_ask (c : Call) (next : c.Answer → Dialogue α) (f : α → Dialogue β) :
    bind (ask c next) f = ask c fun answer => bind (next answer) f := rfl

/-- A call with its answer. -/
abbrev Exchange := (c : Call) × c.Answer

/-- The exchanges on one way through a dialogue, and the value at its end. -/
inductive Run : Dialogue α → List Exchange → α → Prop where
  | done (value : α) : Run (.done value) [] value
  | ask {c : Call} {next : c.Answer → Dialogue α} {answer : c.Answer} {rest : List Exchange}
      {value : α} (run : Run (next answer) rest value) :
      Run (.ask c next) (⟨c, answer⟩ :: rest) value

/-- A run of two dialogues is a run of the first and then one of the second. -/
theorem run_bind_iff {d : Dialogue α} {f : α → Dialogue β} {trace : List Exchange} {value : β} :
    Run (bind d f) trace value ↔
      ∃ first second between, Run d first between ∧ Run (f between) second value ∧
        trace = first ++ second := by
  induction d generalizing trace with
  | done a =>
    constructor
    · intro h
      exact ⟨[], trace, a, .done a, h, rfl⟩
    · rintro ⟨first, second, between, h, h', rfl⟩
      cases h
      exact h'
  | ask c next ih =>
    constructor
    · intro h
      cases h with
      | ask run =>
        obtain ⟨first, second, between, h, h', rfl⟩ := (ih _).1 run
        exact ⟨_ :: first, second, between, .ask h, h', rfl⟩
    · rintro ⟨first, second, between, h, h', rfl⟩
      cases h with
      | ask run => exact .ask ((ih _).2 ⟨_, second, between, run, h', rfl⟩)

/-- The value of a dialogue with a host in state `s`, and the state of the host afterwards. -/
def play (answer : σ → (c : Call) → c.Answer × σ) (s : σ) : Dialogue α → α × σ
  | done value => (value, s)
  | ask c next =>
    let (a, s) := answer s c
    play answer s (next a)

end Dialogue

end Launcher.Host
