import Launcher.Host.WaitStatus
/-!
# How a process ends, and what is done with a new one

## Main definitions

* `Launcher.ExitStatus` — the end of a process: an exit code, or the signal that ended it.
* `Launcher.ExitStatus.ofWait` — the end that a wait has told.
* `Launcher.Completion` — what a launch does with the process once it exists.
-/

namespace Launcher

/-! ## The end of a process -/

/-- How a finished process ended. -/
inductive ExitStatus where
  /-- It exited with this code. -/
  | code (value : Int)
  /-- A signal ended it. -/
  | signaled (signal : Int)
  deriving Repr, DecidableEq

namespace ExitStatus

/-- The end that a wait has told. A word that tells neither an exit nor a signal stands for a signal
without a number. -/
def ofWait (s : Host.WaitStatus) : ExitStatus :=
  match s.code? with
  | some value => code value
  | none => signaled (s.signal?.getD 0)

/-- An exit is told as a code, of which the host keeps the lowest eight bits. -/
theorem ofWait_ofCode (value : Nat) : ofWait (.ofCode value) = code (value % 256 : Nat) := by
  rw [ofWait, Host.WaitStatus.code?_ofCode]

/-- An end by a signal is told with the number of the signal. -/
theorem ofWait_ofSignal {signal : Nat} (hpos : 0 < signal) (h : signal < 127) (dumped : Bool) :
    ofWait (.ofSignal signal dumped) = signaled signal := by
  rw [ofWait, Host.WaitStatus.code?_ofSignal hpos (by omega), Host.WaitStatus.signal?_ofSignal hpos h]
  rfl

/-- The text shown for a status. -/
def text : ExitStatus → String
  | code value => "exit code " ++ toString value
  | signaled signal => "signal " ++ toString signal

/-- The process exited with code 0. -/
def succeeded : ExitStatus → Bool
  | code value => value == 0
  | signaled _ => false

/-- The exit code, of a process that exited. -/
def exitCode? : ExitStatus → Option Int
  | code value => some value
  | signaled _ => none

end ExitStatus

/-! ## Completion -/

/-- What a launch does with the new process once it exists. -/
inductive Completion where
  /-- Block until the process ends, then release every handle. -/
  | wait
  /-- Return at once and hand the process to the caller. -/
  | track
  /-- Return at once and release the process as well. -/
  | detach
  deriving Repr, DecidableEq

namespace Completion

/-- The mode of a launch that asks for none. -/
instance : Inhabited Completion := ⟨track⟩

/-- The name of a mode, in documents and in messages. -/
def name : Completion → String
  | wait => "wait"
  | track => "track"
  | detach => "detach"

/-- The modes, in the order in which messages list them. -/
def all : List Completion :=
  [wait, track, detach]

/-- The mode of a name. -/
def ofName? (name : String) : Option Completion :=
  all.find? fun mode => mode.name == name

/-- The mode blocks until the process ends. -/
def waits : Completion → Bool
  | wait => true
  | track | detach => false

/-- Every mode is found by its name. -/
theorem ofName?_name (mode : Completion) : ofName? mode.name = some mode := by
  cases mode <;> decide

end Completion

end Launcher
